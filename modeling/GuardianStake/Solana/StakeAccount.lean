import GuardianStake.Solana.Types

/-!
# Stake accounts, decoded

`state/stake-account.ts`: the view of a decoded stake account, the lockup test, and the position
that discovery makes of a view and its activation.

* `decodeStakeAccount_cases` — a decoded view names no authority, or both.
* `positionOfView_status` — a delegation's position has the status of its activation.
* `mapPositionStatus_eq_claimable`, `positionAmount_of_claimable` — what is reported as Claimable.
-/

namespace GuardianStake.Solana

open Sdk

/-- `StakeStateV2["__kind"]`. -/
inductive StakeKind
  | uninitialized
  | initialized
  | stake
  | rewardsPool
  deriving DecidableEq, Repr

/-- The kind as the source spells it. -/
def StakeKind.toText : StakeKind → String
  | .uninitialized => "Uninitialized"
  | .initialized => "Initialized"
  | .stake => "Stake"
  | .rewardsPool => "RewardsPool"

/-- Source: `state/stake-account.ts`, `StakeAccountView`. -/
structure StakeAccountView where
  kind : StakeKind
  staker : Option String
  withdrawer : Option String
  voter : Option String
  rentExemptReserve : ℕ
  delegatedStake : ℕ
  activationEpoch : ℕ
  deactivationEpoch : ℕ
  creditsObserved : ℕ
  lockup : Option StakeLockup
  deriving DecidableEq, Repr

/-- The `DelegationInput` of a view, as `loadPositions` makes it. -/
def StakeAccountView.delegation (view : StakeAccountView) : DelegationInput :=
  { stake := view.delegatedStake, activationEpoch := view.activationEpoch,
    deactivationEpoch := view.deactivationEpoch }

/-- Source: `state/stake-account.ts`, `isLockupInForce`. -/
def isLockupInForce (lockup : StakeLockup) (clock : SolanaClock) : Bool :=
  clock.unixTimestamp < lockup.unixTimestamp || clock.epoch < lockup.epoch

/-- The view of an account that holds no stake meta. -/
def viewWithoutMeta (kind : StakeKind) : StakeAccountView :=
  { kind, staker := none, withdrawer := none, voter := none, rentExemptReserve := 0,
    delegatedStake := 0, activationEpoch := 0, deactivationEpoch := u64Max, creditsObserved := 0,
    lockup := none }

/-- Source: `state/stake-account.ts`, `mapState`. -/
def mapState : StakeStateV2 → StakeAccountView
  | .uninitialized => viewWithoutMeta .uninitialized
  | .rewardsPool => viewWithoutMeta .rewardsPool
  | .initialized m =>
      { kind := .initialized, staker := some m.staker, withdrawer := some m.withdrawer,
        voter := none, rentExemptReserve := m.rentExemptReserve, delegatedStake := 0,
        activationEpoch := 0, deactivationEpoch := u64Max, creditsObserved := 0,
        lockup := some m.lockup }
  | .stake m stake =>
      { kind := .stake, staker := some m.staker, withdrawer := some m.withdrawer,
        voter := some stake.voterPubkey, rentExemptReserve := m.rentExemptReserve,
        delegatedStake := stake.stake, activationEpoch := stake.activationEpoch,
        deactivationEpoch := stake.deactivationEpoch, creditsObserved := stake.creditsObserved,
        lockup := some m.lockup }

/-- Source: `state/stake-account.ts`, `decodeStakeAccount`. -/
def decodeStakeAccount (kit : SolanaKit) (data : List UInt8) : Option StakeAccountView :=
  if data.length = 0 then none else (kit.decode data).map mapState

/-- A decoded view names no authority and is of neither kind that has one, or names both. -/
theorem decodeStakeAccount_cases {kit : SolanaKit} {data : List UInt8} {view : StakeAccountView}
    (h : decodeStakeAccount kit data = some view) :
    ((view.kind = .uninitialized ∨ view.kind = .rewardsPool) ∧ view.staker = none ∧
        view.withdrawer = none) ∨
      ((view.kind = .initialized ∨ view.kind = .stake) ∧ view.staker ≠ none ∧
        view.withdrawer ≠ none) := by
  unfold decodeStakeAccount at h
  split at h
  · cases h
  · obtain ⟨state, -, rfl⟩ := Option.map_eq_some_iff.mp h
    cases state with
    | uninitialized => exact Or.inl ⟨Or.inl rfl, rfl, rfl⟩
    | rewardsPool => exact Or.inl ⟨Or.inr rfl, rfl, rfl⟩
    | initialized m => exact Or.inr ⟨Or.inl rfl, Option.some_ne_none _, Option.some_ne_none _⟩
    | stake m stake => exact Or.inr ⟨Or.inr rfl, Option.some_ne_none _, Option.some_ne_none _⟩

/-- Source: `state/stake-account.ts`, `StakePosition`. -/
structure StakePosition where
  stakeAccount : String
  seedIndex : Option ℕ
  staker : String
  withdrawer : String
  voter : Option String
  lamports : ℕ
  rentExemptReserve : ℕ
  delegatedStake : ℕ
  activationEpoch : ℕ
  deactivationEpoch : ℕ
  creditsObserved : ℕ
  effective : ℤ
  activating : ℤ
  deactivating : ℤ
  status : StakePositionStatus
  deriving DecidableEq, Repr

/-- Source: `state/stake-account.ts`, `toStakePosition`. -/
def toStakePosition (stakeAccount : String) (seedIndex : Option ℕ) (lamports : ℕ)
    (view : StakeAccountView) (activation : Option StakeActivation) : StakePosition :=
  let activation := activation.getD
    { effective := 0, activating := 0, deactivating := 0, status := .inactive }
  let status := if view.kind = .stake then activation.status else deriveStatus 0 0 0
  { stakeAccount, seedIndex, lamports, status
    staker := view.staker.getD ""
    withdrawer := view.withdrawer.getD ""
    voter := view.voter
    rentExemptReserve := view.rentExemptReserve
    delegatedStake := view.delegatedStake
    activationEpoch := view.activationEpoch
    deactivationEpoch := view.deactivationEpoch
    creditsObserved := view.creditsObserved
    effective := if view.kind = .stake then activation.effective else 0
    activating := if view.kind = .stake then activation.activating else 0
    deactivating := if view.kind = .stake then activation.deactivating else 0 }

/-- The position `loadPositions` makes of a view: a delegation's with its activation. -/
def positionOfView (W : PerEpochAmounts) (epoch : ℕ) (history : StakeHistoryMap)
    (stakeAccount : String) (seedIndex : Option ℕ) (lamports : ℕ) (view : StakeAccountView) :
    StakePosition :=
  toStakePosition stakeAccount seedIndex lamports view
    (if view.kind = .stake then some (computeStakeActivation W view.delegation epoch history)
    else none)

section positionOfView

variable {W : PerEpochAmounts} {epoch : ℕ} {history : StakeHistoryMap} {stakeAccount : String}
  {seedIndex : Option ℕ} {lamports : ℕ} {view : StakeAccountView}

/-- A delegation's position carries its activation. -/
theorem positionOfView_of_stake (hkind : view.kind = .stake) :
    positionOfView W epoch history stakeAccount seedIndex lamports view =
      toStakePosition stakeAccount seedIndex lamports view
        (some (computeStakeActivation W view.delegation epoch history)) := by
  rw [positionOfView, if_pos hkind]

/-- A delegation's position has the status of its activation. -/
theorem positionOfView_status (hkind : view.kind = .stake) :
    (positionOfView W epoch history stakeAccount seedIndex lamports view).status =
      (computeStakeActivation W view.delegation epoch history).status := by
  simp [positionOfView_of_stake hkind, toStakePosition, hkind]

/-- A position of anything else is inactive. -/
theorem positionOfView_status_of_ne (hkind : view.kind ≠ .stake) :
    (positionOfView W epoch history stakeAccount seedIndex lamports view).status = .inactive := by
  simp [positionOfView, toStakePosition, hkind, deriveStatus]

end positionOfView

/-! ## Positions as the services report them -/

/-- Source: `services/staking-service.ts`, `mapPositionStatus`. -/
def mapPositionStatus : StakePositionStatus → DelegationStatus
  | .active | .activating => .active
  | .deactivating => .pending
  | .inactive => .claimable

/-- Source: `services/staking-service.ts`, `positionAmount`. -/
def positionAmount (position : StakePosition) : ℤ :=
  match position.status with
  | .active | .activating =>
      if 0 < position.effective + position.activating then
        position.effective + position.activating
      else position.delegatedStake
  | .deactivating =>
      if 0 < position.deactivating then position.deactivating else position.effective
  | .inactive => position.lamports

/-- Claimable is the word for inactive. -/
theorem mapPositionStatus_eq_claimable {status : StakePositionStatus} :
    mapPositionStatus status = .claimable ↔ status = .inactive := by
  cases status <;> simp [mapPositionStatus]

/-- What is reported as Claimable is reported with all its lamports. -/
theorem positionAmount_of_claimable {position : StakePosition}
    (h : mapPositionStatus position.status = .claimable) :
    positionAmount position = position.lamports := by
  rw [positionAmount, mapPositionStatus_eq_claimable.mp h]

end GuardianStake.Solana
