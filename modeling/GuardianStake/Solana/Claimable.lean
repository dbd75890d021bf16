import GuardianStake.Solana.Discovery
import GuardianStake.Solana.LoadPositions
import GuardianStake.Solana.TxBuilder

/-!
# Claimable positions and the builder

The read path (`loadPositions`, `mapPositionStatus`, `positionAmount`) calls a position Claimable
when no stake is left in it; the write path (`buildClaimDelegate`) decodes the account again and
applies gates of its own.

* `claimable_passesClaimGates_iff` — a Claimable position passes every gate iff it is `Withdrawable`:
  no lockup in force and not a never-deactivated delegation, the two things the read path does not
  look at; and what is withdrawn is the amount reported.
* `claimablePositions_refused` — a Claimable position whose lockup the builder refuses, and one that
  was never deactivated.
-/

namespace GuardianStake.Solana

open Sdk

section claimable

variable {kit : SolanaKit} {W : PerEpochAmounts} {rpc : SolanaRpcClient}
  {accounts : String → Option SolanaAccountInfo} {clock : SolanaClock} {authority : String}

/-- **Claimable positions at the builder.** A position reported as Claimable belongs to a
stake-program account of the authority with lamports; the builder, reading the same chain, lets it
through its state gates iff no lockup is in force and it is not a delegation that was never
deactivated. A delegation gets there without stake, before its activation epoch, or deactivated; a
transaction built withdraws exactly the amount reported. -/
theorem claimable_passesClaimGates_iff (hrpc : ReadsChain rpc accounts clock)
    {config : LoadPositionsConfig} {positions : List StakePosition}
    (hload : loadPositions kit W rpc none config authority = .ok positions)
    {position : StakePosition} (hposition : position ∈ positions)
    (hclaimable : mapPositionStatus position.status = .claimable) {deps : BuildTxDeps}
    (hdeps : ReadsChain deps.rpc accounts clock) (hauthority : deps.authorityAddress = authority) :
    ∃ account view, accounts position.stakeAccount = some account ∧
      account.owner = stakeProgramAddress ∧ 0 < account.lamports ∧
      decodeStakeAccount kit account.data = some view ∧ view.withdrawer = some authority ∧
      (PassesClaimGates kit deps.rpc position.stakeAccount authority ↔ Withdrawable clock view) ∧
      (view.kind = .stake → view.delegatedStake = 0 ∨ clock.epoch < view.activationEpoch ∨
        view.deactivationEpoch ≤ clock.epoch) ∧
      ∀ fee result, buildClaimDelegate kit deps (some position.stakeAccount) fee = .ok result →
        ∃ lamports : ℕ, result.message.instructions =
            [.withdraw position.stakeAccount authority authority lamports] ∧
          lamports = positionAmount position := by
  obtain ⟨account, view, seedIndex, history, haccount, howner, hview, -, hwithdrawer, hpos, rfl⟩ :=
    loadPositions_mem hrpc hload position hposition
  refine ⟨account, view, haccount, howner, hpos, hview, hwithdrawer,
    passesClaimGates_iff hdeps.toReadsAccounts hdeps.getClock haccount howner hview hwithdrawer
      hpos,
    fun hkind => ?_, fun fee result hbuilt => ?_⟩
  · have hinactive := mapPositionStatus_eq_claimable.mp hclaimable
    exact computeStakeActivation_inactive ((positionOfView_status hkind).symm.trans hinactive)
  obtain ⟨-, built, hread, hinstructions⟩ := buildClaimDelegate_eq_ok hdeps.toReadsAccounts hbuilt
  obtain rfl := Option.some.inj (haccount.symm.trans hread)
  subst hauthority
  exact ⟨account.lamports, hinstructions, (positionAmount_of_claimable hclaimable).symm⟩

end claimable

/-! ### Three accounts at a wallet's first seed -/

/-- The bytes of the wallet's address. -/
def walletBytes : List UInt8 :=
  [6, 155, 136, 87, 254, 171, 129, 132, 251, 104, 127, 99, 70, 24, 192, 53,
    218, 196, 57, 220, 26, 235, 59, 85, 152, 160, 240, 0, 0, 0, 0, 1]

/-- The bytes of a vote account's address. -/
def voterBytes : List UInt8 :=
  [173, 35, 118, 109, 170, 79, 48, 149, 122, 78, 144, 205, 248, 38, 143, 97,
    248, 31, 15, 0, 232, 57, 201, 173, 110, 250, 0, 159, 68, 236, 159, 166]

/-- The `Meta` bytes of a stake account of the wallet, its lockup ending at a time given in eight
bytes: rent reserve, staker, withdrawer, lockup time, epoch, custodian. -/
def metaData (unixTimestamp : List UInt8) : List UInt8 :=
  [128, 213, 34, 0, 0, 0, 0, 0] ++ walletBytes ++ walletBytes ++ unixTimestamp ++
    List.replicate 8 0 ++ List.replicate 32 0

/-- The state in these bytes. -/
def walletMeta (unixTimestamp : ℤ) : StakeMeta :=
  { rentExemptReserve := 2282880, staker := wallet, withdrawer := wallet
    lockup := { unixTimestamp, epoch := 0, custodian := "11111111111111111111111111111111" } }

/-- Initialized, with a lockup until the year 2286. -/
def lockedData : List UInt8 :=
  [1, 0, 0, 0] ++ metaData [255, 227, 11, 84, 2, 0, 0, 0] ++ List.replicate 76 0

@[inherit_doc lockedData]
def lockedState : StakeStateV2 := .initialized (walletMeta 9999999999)

/-- Initialized, without a lockup. -/
def unlockedData : List UInt8 :=
  [1, 0, 0, 0] ++ metaData (List.replicate 8 0) ++ List.replicate 76 0

@[inherit_doc unlockedData]
def unlockedState : StakeStateV2 := .initialized (walletMeta 0)

/-- Delegated at epoch 700 with nothing above the rent reserve, never deactivated: voter, stake,
activation and deactivation epoch, warm-up rate, credits observed, flags. -/
def emptyDelegationData : List UInt8 :=
  [2, 0, 0, 0] ++ metaData (List.replicate 8 0) ++ voterBytes ++ List.replicate 8 0 ++
    [188, 2, 0, 0, 0, 0, 0, 0] ++ List.replicate 8 255 ++ [0, 0, 0, 0, 0, 0, 208, 63] ++
    List.replicate 8 0 ++ List.replicate 4 0

@[inherit_doc emptyDelegationData]
def emptyDelegationState : StakeStateV2 :=
  .stake (walletMeta 0)
    { voterPubkey := "CertusDeBmqN8ZawdkxK5kFGMwBXdudvWHYwtNgNhvLu", stake := 0,
      activationEpoch := 700, deactivationEpoch := u64Max, creditsObserved := 0 }

/-- Kit on the wallet, with the three accounts decoded. -/
def firstSeedKit : SolanaKit :=
  { walletKit with
    isAddress := fun address => address = wallet || address = walletAddress 0
    decode := fun data =>
      if data = lockedData then some lockedState
      else if data = unlockedData then some unlockedState
      else if data = emptyDelegationData then some emptyDelegationState
      else none }

/-- The chain with one account, at the wallet's first seed. -/
def firstSeedAccounts (data : List UInt8) : Accounts :=
  Function.update (fun _ => none) (walletAddress 0) (some
    { address := walletAddress 0, lamports := 1002282880, data, owner := stakeProgramAddress })

/-- The clock of that chain. -/
def firstSeedClock : SolanaClock := { epoch := 800, unixTimestamp := 1750000000 }

/-- An RPC on that chain. -/
def firstSeedRpc (data : List UInt8) : SolanaRpcClient :=
  { rpcOf (firstSeedAccounts data) with
    getClock := .ok firstSeedClock
    getClockEpoch := .ok firstSeedClock.epoch }

theorem readsChain_firstSeedRpc (data : List UInt8) :
    ReadsChain (firstSeedRpc data) (firstSeedAccounts data) firstSeedClock := by
  refine ⟨⟨fun _ => rfl, fun {address info} h => ?_⟩, rfl, rfl, fun {authority rows} h => ?_⟩
  · rw [firstSeedAccounts, Function.update_apply] at h
    split at h
    · obtain rfl := Option.some.inj h
      exact Eq.symm ‹_›
    · cases h
  · obtain rfl := Except.ok.inj h
    exact fun row hrow => absurd hrow List.not_mem_nil

/-- The smallest amounts an epoch can move; these accounts move none. -/
def oneLamport : PerEpochAmounts where
  newlyEffective := fun _ _ => 1
  newlyNotEffective := fun _ _ => 1
  one_le_newlyEffective := fun _ _ => le_rfl
  one_le_newlyNotEffective := fun _ _ => le_rfl

/-- The position of the account, with no stake moving. -/
def firstSeedPosition (state : StakeStateV2) : StakePosition :=
  toStakePosition (walletAddress 0) (some 0) 1002282880 (mapState state) none

/-- Without a lockup the position passes. -/
theorem unlockedPosition_claimable :
    PassesClaimGates firstSeedKit (firstSeedRpc unlockedData) (walletAddress 0) wallet := by
  have hload : loadPositions firstSeedKit oneLamport (firstSeedRpc unlockedData) none {} wallet =
      .ok [firstSeedPosition unlockedState] := by decide +kernel
  let deps : BuildTxDeps := { rpc := firstSeedRpc unlockedData, authorityAddress := wallet }
  have hauthority : deps.authorityAddress = wallet := rfl
  obtain ⟨account, view, haccount, -, -, hview, -, hgates, -, -⟩ := claimable_passesClaimGates_iff
    (readsChain_firstSeedRpc unlockedData) hload List.mem_cons_self (by decide +kernel)
    (readsChain_firstSeedRpc unlockedData) hauthority
  have hread : firstSeedAccounts unlockedData (walletAddress 0) = some
      { address := walletAddress 0, lamports := 1002282880, data := unlockedData,
        owner := stakeProgramAddress } := Function.update_self ..
  obtain rfl := Option.some.inj (haccount.symm.trans hread)
  have hdecode : decodeStakeAccount firstSeedKit unlockedData = some (mapState unlockedState) := by
    decide +kernel
  obtain rfl := Option.some.inj (hview.symm.trans hdecode)
  refine hgates.mpr ⟨nofun, fun lockup hlockup => ?_⟩
  obtain rfl := Option.some.inj hlockup
  decide

/-- What the gates refuse does not pass them. -/
theorem not_passesClaimGates {kit : SolanaKit} {rpc : SolanaRpcClient}
    {stakeAccount authority : String} {e : Thrown}
    (h : loadAndAssertStakeAccount kit rpc stakeAccount authority .withdrawer claimGates =
      .error e) : ¬PassesClaimGates kit rpc stakeAccount authority := by
  rintro ⟨account, hload, -⟩
  rw [h] at hload
  cases hload

/-- **Claimable positions that cannot be claimed**: one with a lockup in force, and one with a
delegation of nothing, its lamports sent afterwards, that was never deactivated. -/
theorem claimablePositions_refused :
    (loadPositions firstSeedKit oneLamport (firstSeedRpc lockedData) none {} wallet =
        .ok [firstSeedPosition lockedState] ∧
      mapPositionStatus (firstSeedPosition lockedState).status = .claimable ∧
      ¬PassesClaimGates firstSeedKit (firstSeedRpc lockedData) (walletAddress 0) wallet) ∧
    loadPositions firstSeedKit oneLamport (firstSeedRpc emptyDelegationData) none {} wallet =
        .ok [firstSeedPosition emptyDelegationState] ∧
      mapPositionStatus (firstSeedPosition emptyDelegationState).status = .claimable ∧
      ¬PassesClaimGates firstSeedKit (firstSeedRpc emptyDelegationData) (walletAddress 0)
        wallet := by
  have hlocked : loadAndAssertStakeAccount firstSeedKit (firstSeedRpc lockedData)
      (walletAddress 0) wallet .withdrawer claimGates = .error (.validation .unsupportedOperation
        (s!"Stake account \"{walletAddress 0}\" has lockup in force until "
          ++ "unixTimestamp=9999999999 / epoch=0. Custodian co-sign is not supported in v1.")) := by
    decide +kernel
  have hactive : loadAndAssertStakeAccount firstSeedKit (firstSeedRpc emptyDelegationData)
      (walletAddress 0) wallet .withdrawer claimGates = .error (.validation .unsupportedOperation
        (s!"Stake account \"{walletAddress 0}\" is still active (never deactivated). "
          ++ "Undelegate and wait for cooldown before ClaimDelegate.")) := by
    decide +kernel
  exact ⟨⟨by decide +kernel, by decide +kernel, not_passesClaimGates hlocked⟩,
    by decide +kernel, by decide +kernel, not_passesClaimGates hactive⟩

end GuardianStake.Solana
