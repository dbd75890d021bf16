import GuardianStake.Sdk.Signing

/-!
# BSC data and call encoding

What the package uses of `viem`, the checks of `validations.ts`, and the call data of
`abi/staking-function-encoder.ts`.

* `Viem.Lawful viem key` — the documented behaviour of `viem` the sign service relies on, for the
  holder of one key.
-/

namespace GuardianStake.Bsc

open Sdk

/-! ## viem -/

/-- An argument of a contract call, with its ABI type. -/
inductive AbiValue
  | address (value : String)
  | uint256 (value : ℤ)
  | bool (value : Bool)
  deriving DecidableEq, Repr

/-- The fields of viem's `TransactionSerializable` that the package sets. -/
structure TransactionSerializable where
  «to» : String
  value : ℤ
  data : String
  chainId : Number
  gas : ℤ
  gasPrice : ℤ
  nonce : Number
  deriving DecidableEq, Repr

/-- viem's `Signature`. -/
structure Signature where
  r : String
  s : String
  yParity : ℕ
  deriving DecidableEq, Repr

/-- What the package uses of `viem` and `viem/accounts`; byte strings are `Hex` strings.
`addressOf key` is the address of `privateKeyToAccount(key)`, `signDigest key bytes` its signature
over the hash of `bytes`, and `signatureToHex` the string form of a signature. -/
structure Viem where
  isAddress : String → Bool
  getAddress : String → String
  formatEther : ℤ → String
  toFunctionSelector : String → String
  encodeAbiParameters : List AbiValue → Result String
  serializeTransaction : TransactionSerializable → Option Signature → Result String
  parseTransaction : String → Result TransactionSerializable
  parseSignature : String → Result Signature
  signatureToHex : Signature → String
  recoverTransactionAddress : String → Result String
  addressOf : String → String
  signDigest : (key bytes : String) → Signature

/-- `privateKeyToAccount(key).signTransaction(tx)`: serialize, sign the hash, serialize again. -/
def Viem.signTransaction (viem : Viem) (key : String) (tx : TransactionSerializable) :
    Result String := do
  let bytes ← viem.serializeTransaction tx none
  viem.serializeTransaction tx (some (viem.signDigest key bytes))

/-- The documented behaviour of `viem`: a serialized transaction is not the empty string, parsing it
gives a transaction that serializes alike, a signature survives its string form, and a transaction
with a key's signature over its bytes serializes and recovers to the key's address. -/
structure Viem.Lawful (viem : Viem) (key : String) : Prop where
  isAddress_empty : viem.isAddress "" = false
  serialize_ne_empty : ∀ {tx bytes}, viem.serializeTransaction tx none = .ok bytes → bytes ≠ ""
  parse_serialize : ∀ {tx bytes}, viem.serializeTransaction tx none = .ok bytes →
    ∃ tx', viem.parseTransaction bytes = .ok tx' ∧
      ∀ sig, viem.serializeTransaction tx' sig = viem.serializeTransaction tx sig
  parse_signature : ∀ {tx bytes}, viem.serializeTransaction tx none = .ok bytes →
    viem.parseSignature (viem.signatureToHex (viem.signDigest key bytes)) =
      .ok (viem.signDigest key bytes)
  recovers : ∀ {tx bytes}, viem.serializeTransaction tx none = .ok bytes →
    ∃ signed, viem.serializeTransaction tx (some (viem.signDigest key bytes)) = .ok signed ∧
      viem.recoverTransactionAddress signed = .ok (viem.addressOf key)

/-! ## Validations -/

/-- Source: `validations.ts`, `parseEvmAddress`. -/
def parseEvmAddress (viem : Viem) (address : String) : Result String :=
  if viem.isAddress address then .ok address
  else .error (.validation .invalidAddress s!"\"{address}\" is not a valid EVM address.")

theorem parseEvmAddress_eq_ok {viem : Viem} {address parsed : String} :
    parseEvmAddress viem address = .ok parsed ↔ viem.isAddress address ∧ address = parsed := by
  unfold parseEvmAddress
  split <;> simp_all

/-! ## Call data -/

/-- Source: `abi/multicall-stake-abi.ts`, `STAKING_CONTRACT`. -/
def stakingContract : String := "0x0000000000000000000000000000000000002002"

/-- Source: `abi/abi-utils.ts`, `encodeFunctionCall`. -/
def encodeFunctionCall (viem : Viem) (functionSignature : String) (params : List AbiValue) :
    Result String := do
  let selector := viem.toFunctionSelector functionSignature
  if params.length = 0 then return selector
  else
    let encodedArgs ← viem.encodeAbiParameters params
    return selector ++ String.ofList (encodedArgs.toList.drop 2)

/-- Source: `abi/staking-function-encoder.ts`, `encodeDelegate`. -/
def encodeDelegate (viem : Viem) (operatorAddress : String) : Result String :=
  encodeFunctionCall viem "delegate(address,bool)" [.address operatorAddress, .bool false]

/-- Source: `abi/staking-function-encoder.ts`, `encodeUndelegate`. -/
def encodeUndelegate (viem : Viem) (operatorAddress : String) (shares : ℤ) : Result String :=
  encodeFunctionCall viem "undelegate(address,uint256)" [.address operatorAddress, .uint256 shares]

/-- Source: `abi/staking-function-encoder.ts`, `encodeRedelegate`. -/
def encodeRedelegate (viem : Viem) (fromOperatorAddress toOperatorAddress : String) (shares : ℤ) :
    Result String :=
  encodeFunctionCall viem "redelegate(address,address,uint256,bool)"
    [.address fromOperatorAddress, .address toOperatorAddress, .uint256 shares, .bool false]

/-- Source: `abi/staking-function-encoder.ts`, `encodeClaim`. -/
def encodeClaim (viem : Viem) (operatorAddress : String) (index : ℤ) : Result String :=
  encodeFunctionCall viem "claim(address,uint256)" [.address operatorAddress, .uint256 index]

/-! ## Reads -/

/-- The reads of `rpc/staking-rpc-client-contract.ts` that signing makes. -/
structure StakingRpcClient where
  getSharesByPooledBNBData : (contract : String) → (amount : ℤ) → Result ℤ
  getShareBalance : (creditContract delegator : String) → Result ℤ

end GuardianStake.Bsc
