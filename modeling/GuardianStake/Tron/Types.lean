import GuardianStake.Sdk.Js
import GuardianStake.Sdk.Transaction

/-!
# Tron data

Responses of the FullNode as the RPC client passes them on, and the contracts TronWeb builds.
Amounts are in SUN, a millionth of a TRX.
-/

namespace GuardianStake.Tron

open Sdk

/-- Source: `tx/tron-types.ts`, `SUN_PER_TRX`. -/
def sunPerTrx : ℤ := 1000000

/-- Source: `rpc/tron-rpc-types.ts`, `TronResource`. -/
inductive TronResource
  | energy
  | bandwidth
  deriving DecidableEq, Repr

/-- A resource as the source spells it. -/
def TronResource.toText : TronResource → String
  | .energy => "ENERGY"
  | .bandwidth => "BANDWIDTH"

/-- `resource.toLowerCase()`. -/
def TronResource.toLowerText : TronResource → String
  | .energy => "energy"
  | .bandwidth => "bandwidth"

/-- An entry of `frozen`. -/
structure Frozen where
  resource : TronResource
  amount : ℤ
  deriving DecidableEq, Repr

/-- An entry of `unfreezing`. -/
structure Unfreezing where
  resource : TronResource
  amount : ℤ
  expireTime : ℤ
  deriving DecidableEq, Repr

/-- An entry of `votes`: whole TRX of Tron Power cast for a Super Representative. -/
structure Vote where
  srAddress : String
  votes : ℤ
  deriving DecidableEq, Repr

/-- Source: `rpc/tron-rpc-types.ts`, `TronAccount`. -/
structure TronAccount where
  balance : ℤ
  frozen : List Frozen
  unfreezing : List Unfreezing
  votes : List Vote
  deriving DecidableEq, Repr

/-- The frozen, unfreezing and voted amounts are not negative. -/
structure TronAccount.NonNegative (account : TronAccount) : Prop where
  frozen : ∀ f ∈ account.frozen, 0 ≤ f.amount
  unfreezing : ∀ u ∈ account.unfreezing, 0 ≤ u.amount
  votes : ∀ v ∈ account.votes, 0 ≤ v.votes

/-- `account.frozen.reduce((s, f) => s + f.amount, 0n)`. -/
def TronAccount.totalFrozen (account : TronAccount) : ℤ := (account.frozen.map Frozen.amount).sum

theorem TronAccount.NonNegative.totalFrozen_nonneg {account : TronAccount}
    (h : account.NonNegative) : 0 ≤ account.totalFrozen :=
  List.sum_nonneg fun x hx => by
    obtain ⟨f, hf, rfl⟩ := List.mem_map.mp hx
    exact h.frozen f hf

/-- Source: `rpc/tron-rpc-types.ts`, `TronWitness`. -/
structure TronWitness where
  address : String
  voteCount : ℤ
  url : String
  isSr : Bool
  deriving DecidableEq, Repr

/-- Source: `rpc/tron-rpc-types.ts`, `TronAccountResources`. -/
structure TronAccountResources where
  freeNetLimit : ℤ
  freeNetUsed : ℤ
  netLimit : ℤ
  netUsed : ℤ
  deriving DecidableEq, Repr

/-- The reads of `rpc/tron-rpc-client.ts` the services make. Of the chain parameters only
`getTransactionFee` is read here. -/
structure TronRpcClient where
  getAccount : String → Result TronAccount
  getReward : String → Result ℤ
  getTransactionFee : Result (Option ℤ)
  getAccountResources : String → Result TronAccountResources

/-- Source: `validations.ts`, `assertValidAddress`; `isAddress` is `TronWeb.isAddress`. -/
def assertValidAddress (isAddress : String → Bool) (address : String) : Result Unit :=
  if isAddress address then .ok ()
  else .error (.validation .invalidAddress "Malformed Tron address.")

end GuardianStake.Tron
