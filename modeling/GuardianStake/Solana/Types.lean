import GuardianStake.Sdk.Js
import GuardianStake.Sdk.Transaction
import GuardianStake.Solana.Activation

/-!
# Solana data

Responses of the RPC client, the decoded stake state, and the parts of `@solana/kit` and
`@solana-program/stake` the package calls. Amounts are lamports; they and the epochs come from
`u64`s.

* `ReadsAccounts rpc accounts` — an RPC that answers account reads positionally from one state.
* `SeedAddresses kit authority max addr` — the stake addresses of an authority, one per seed index
  up to `max`.
-/

namespace GuardianStake.Solana

open Sdk

/-! ## Constants -/

/-- Source: `state/constants.ts`, `STAKE_PROGRAM_ADDRESS`. -/
def stakeProgramAddress : String := "Stake11111111111111111111111111111111111111"

/-- Source: `state/constants.ts`, `DEFAULT_SEED_SCAN_GAP_LIMIT`. -/
def defaultSeedScanGapLimit : ℤ := 5

/-- Source: `state/constants.ts`, `DEFAULT_SEED_SCAN_MAX`. -/
def defaultSeedScanMax : ℤ := 50

/-! ## Responses -/

/-- Source: `rpc/solana-rpc-types.ts`, `SolanaAccountInfo`. -/
structure SolanaAccountInfo where
  address : String
  lamports : ℕ
  data : List UInt8
  owner : String
  deriving DecidableEq, Repr

/-- Source: `rpc/solana-rpc-types.ts`, `SolanaStakeProgramAccount`. -/
structure SolanaStakeProgramAccount where
  address : String
  lamports : ℕ
  data : List UInt8
  deriving DecidableEq, Repr

/-- Source: `rpc/solana-rpc-types.ts`, `SolanaClock`. -/
structure SolanaClock where
  epoch : ℕ
  unixTimestamp : ℤ
  deriving DecidableEq, Repr

/-- Source: `rpc/solana-rpc-types.ts`, `LatestBlockhash`. -/
structure LatestBlockhash where
  blockhash : String
  lastValidBlockHeight : ℕ
  deriving DecidableEq, Repr

/-- The calls of `rpc/solana-rpc-client-contract.ts` that discovery and the builder make. -/
structure SolanaRpcClient where
  getBalance : String → Result ℕ
  getStakeMinimumDelegation : Result ℕ
  getMinimumBalanceForRentExemption : ℕ → Result ℕ
  getLatestBlockhash : Result LatestBlockhash
  getMultipleAccounts : List String → Result (List (Option SolanaAccountInfo))
  getProgramAccountsStakeByStaker : String → Result (List SolanaStakeProgramAccount)
  getStakeHistory : Result (List (ℕ × StakeHistoryEntry))
  getClock : Result SolanaClock
  getClockEpoch : Result ℕ

/-- An RPC that answers account reads positionally from one state of the accounts. -/
structure ReadsAccounts (rpc : SolanaRpcClient) (accounts : String → Option SolanaAccountInfo) :
    Prop where
  getMultipleAccounts : ∀ addresses,
    rpc.getMultipleAccounts addresses = .ok (addresses.map accounts)
  address_eq : ∀ {address info}, accounts address = some info → info.address = address

/-! ## Stake state -/

/-- Source: `state/stake-account.ts`, `StakeLockup`. -/
structure StakeLockup where
  unixTimestamp : ℤ
  epoch : ℕ
  custodian : String
  deriving DecidableEq, Repr

/-- `Meta` of the stake program, its authorities flattened. -/
structure StakeMeta where
  rentExemptReserve : ℕ
  staker : String
  withdrawer : String
  lockup : StakeLockup
  deriving DecidableEq, Repr

/-- `Stake` of the stake program, its delegation flattened. -/
structure StakeData where
  voterPubkey : String
  stake : ℕ
  activationEpoch : ℕ
  deactivationEpoch : ℕ
  creditsObserved : ℕ
  deriving DecidableEq, Repr

/-- `StakeStateV2` of the stake program. -/
inductive StakeStateV2
  | uninitialized
  | initialized (stakeMeta : StakeMeta)
  | stake (stakeMeta : StakeMeta) (stake : StakeData)
  | rewardsPool
  deriving DecidableEq, Repr

/-! ## Kit -/

/-- What the package uses of `@solana/kit` and `@solana-program/stake`: `address(s)` throws on what
`isAddress` rejects, `createAddressWithSeed` derives, and `decode` is the decoder of the stake
state, `none` where it throws. -/
structure SolanaKit where
  isAddress : String → Bool
  createAddressWithSeed : (baseAddress programAddress seed : String) → Result String
  decode : List UInt8 → Option StakeStateV2

/-- `address(s)`. -/
def SolanaKit.address (kit : SolanaKit) (s : String) : Result String :=
  if kit.isAddress s then .ok s
  else .error (.foreign s!"Expected base58-encoded address: {s}")

/-! ## Seeds -/

/-- Source: `state/seed.ts`, `seedString`. -/
def seedString (index : ℕ) : String := toString index

/-- Source: `state/seed.ts`, `deriveStakeAddress`. -/
def deriveStakeAddress (kit : SolanaKit) (base seed : String) : Result String := do
  let baseAddress ← kit.address base
  kit.createAddressWithSeed baseAddress stakeProgramAddress seed

/-- The stake addresses of an authority: each index up to `max` derives one, no two the same. -/
structure SeedAddresses (kit : SolanaKit) (authority : String) (max : ℕ) (addr : ℕ → String) :
    Prop where
  derive : ∀ i ≤ max, deriveStakeAddress kit authority (seedString i) = .ok (addr i)
  injOn : ∀ i ≤ max, ∀ j ≤ max, addr i = addr j → i = j

end GuardianStake.Solana
