import GuardianStake.Solana.LoadPositions

/-!
# Listing the stake of an authority

`services/staking-service.ts`: the validators behind the vote accounts, and one delegation per
loaded position that is worth something.

* `positionAmount_mem` — what a position is reported with is within the account's lamports, whatever
  the activation walk rounded.
* `getDelegations_eq_ok` — what is listed depends on the positions alone.

The summary that goes with the list (floating point) is left out, and with it the reads that feed
only it; the calls run side by side, so which of several failures a caller sees is not modelled.
-/

namespace GuardianStake.Solana

open Sdk

/-! ## Responses -/

/-- Source: `rpc/solana-rpc-types.ts`, `VoteAccountInfo`; its other fields go into the summary. -/
structure VoteAccountInfo where
  votePubkey : String
  deriving DecidableEq, Repr

/-- Source: `rpc/solana-rpc-types.ts`, `VoteAccountsResult`. -/
structure VoteAccountsResult where
  current : List VoteAccountInfo
  delinquent : List VoteAccountInfo
  deriving DecidableEq, Repr

/-- Source: `rpc/solana-rpc-types.ts`, `EpochInfo`. -/
structure EpochInfo where
  slotIndex : ℕ
  slotsInEpoch : ℕ
  deriving DecidableEq, Repr

/-- The calls of `rpc/solana-rpc-client-contract.ts` that the staking service adds. -/
structure StakingRpcClient extends SolanaRpcClient where
  getVoteAccounts : Result VoteAccountsResult
  getEpochInfo : Result EpochInfo

/-! ## Validators -/

/-- Source: `services/staking-service.ts`, `inactiveStakeValidator`. -/
def inactiveStakeValidator : Validator :=
  { id := "solana-stake-inactive", status := .inactive, name := "Inactive stake" }

/-- Source: `services/staking-service.ts`, `unknownVoteValidator`. -/
def unknownVoteValidator (votePubkey : String) : Validator :=
  { id := votePubkey, status := .inactive, name := votePubkey
    description := "Vote account not in current validator set", operatorAddress := votePubkey }

/-- Source: `services/staking-service.ts`, `mapVoteToValidator`. -/
def mapVoteToValidator (status : ValidatorStatus) (vote : VoteAccountInfo) : Validator :=
  { id := vote.votePubkey, status, name := vote.votePubkey, operatorAddress := vote.votePubkey }

/-- Source: `services/staking-service.ts`, `validatorMap`. -/
def validatorMap (votes : VoteAccountsResult) : JsMap String Validator :=
  let current := votes.current.foldl
    (fun map v => map.set v.votePubkey (mapVoteToValidator .active v)) JsMap.empty
  votes.delinquent.foldl
    (fun map v =>
      if map.has v.votePubkey then map else map.set v.votePubkey (mapVoteToValidator .inactive v))
    current

/-- Source: `services/staking-service.ts`, `resolveValidator`. An empty voter is no voter. -/
def resolveValidator (position : StakePosition) (byVote : JsMap String Validator) : Validator :=
  match position.voter with
  | none => inactiveStakeValidator
  | some voter =>
      if voter = "" then inactiveStakeValidator
      else (byVote.get voter).getD (unknownVoteValidator voter)

/-! ## Delegations -/

/-- `DEFAULT_SLOT_MS`. -/
def defaultSlotMs : ℕ := 400

/-- Source: `services/staking-service.ts`, `estimateEpochBoundaryMs`, with `number` arithmetic. -/
def estimateEpochBoundaryMs (epochInfo : EpochInfo) (nowMs : ℕ) : ℕ :=
  if epochInfo.slotsInEpoch = 0 then nowMs
  else
    let remaining := epochInfo.slotsInEpoch - epochInfo.slotIndex
    roundToDouble (nowMs + roundToDouble (roundToDouble remaining * defaultSlotMs))

/-- The delegation `getDelegations` pushes for a position. -/
def delegationOf (byVote : JsMap String Validator) (epochBoundaryMs : ℕ)
    (position : StakePosition) : Delegation :=
  let status := mapPositionStatus position.status
  { id := position.stakeAccount
    validator := resolveValidator position byVote
    amount := positionAmount position
    status
    delegationIndex := (position.seedIndex.map Int.ofNat).getD (-1)
    pendingUntil := if status = .pending then epochBoundaryMs else 0 }

/-- The loop of `getDelegations`: positions worth nothing are dropped. -/
def delegationsOf (byVote : JsMap String Validator) (epochBoundaryMs : ℕ)
    (positions : List StakePosition) : List Delegation :=
  (positions.filter fun p => positionAmount p ≠ 0).map (delegationOf byVote epochBoundaryMs)

section code

variable (kit : SolanaKit) (W : PerEpochAmounts) (rpc : StakingRpcClient)

/-- Source: `services/staking-service.ts`, `loadValidatorInputs`, as far as the vote accounts go;
`cached` is what the validator cache holds. -/
def loadValidatorInputs (cached : Option VoteAccountsResult) : Result VoteAccountsResult :=
  match cached with
  | some votes => .ok votes
  | none => rpc.getVoteAccounts

/-- Source: `services/staking-service.ts`, `getDelegations`; `cached` and `cachedVotes` are what the
two caches hold. -/
def getDelegations (cached : Option (List StakePosition)) (cachedVotes : Option VoteAccountsResult)
    (config : LoadPositionsConfig) (nowMs : ℕ) (address : String) : Result (List Delegation) := do
  let positions ← loadPositions kit W rpc.toSolanaRpcClient cached config address
  let votes ← loadValidatorInputs rpc cachedVotes
  let _minDelegation ← rpc.getStakeMinimumDelegation
  let epochInfo ← rpc.getEpochInfo
  return delegationsOf (validatorMap votes) (estimateEpochBoundaryMs epochInfo nowMs) positions

variable {kit W rpc}

/-- What is listed is a list of the positions loaded, whatever the validators and the epoch. -/
theorem getDelegations_eq_ok {cached : Option (List StakePosition)}
    {cachedVotes : Option VoteAccountsResult} {config : LoadPositionsConfig} {nowMs : ℕ}
    {address : String} {ds : List Delegation}
    (h : getDelegations kit W rpc cached cachedVotes config nowMs address = .ok ds) :
    ∃ positions byVote epochBoundaryMs,
      loadPositions kit W rpc.toSolanaRpcClient cached config address = .ok positions ∧
        ds = delegationsOf byVote epochBoundaryMs positions := by
  obtain ⟨positions, hpositions, h⟩ := bind_eq_ok.mp h
  obtain ⟨votes, -, h⟩ := bind_eq_ok.mp h
  obtain ⟨-, -, h⟩ := bind_eq_ok.mp h
  obtain ⟨epochInfo, -, h⟩ := bind_eq_ok.mp h
  exact ⟨positions, _, _, hpositions, (Except.ok.inj h).symm⟩

end code

/-! ## What a position is reported with -/

section amounts

variable {W : PerEpochAmounts} {epoch : ℕ} {history : StakeHistoryMap} {stakeAccount : String}
  {seedIndex : Option ℕ} {lamports : ℕ} {view : StakeAccountView}

/-- A delegation is reported with at most its stake, or it is inactive. -/
theorem positionAmount_le_stake (stakeAccount : String) (seedIndex : Option ℕ) (lamports : ℕ)
    (hkind : view.kind = .stake)
    (hactive : (computeStakeActivation W view.delegation epoch history).status ≠ .inactive) :
    0 ≤ positionAmount
        (positionOfView W epoch history stakeAccount seedIndex lamports view) ∧
      positionAmount (positionOfView W epoch history stakeAccount seedIndex lamports view) ≤
        view.delegatedStake := by
  have hacc := computeStakeActivation_accounts W view.delegation epoch history
  have hstake : (view.delegation.stake : ℤ) = view.delegatedStake := rfl
  -- effective and activating together never exceed the stake
  have hsum : (computeStakeActivation W view.delegation epoch history).effective +
      (computeStakeActivation W view.delegation epoch history).activating ≤ view.delegatedStake := by
    rcases lt_or_ge epoch view.delegation.deactivationEpoch with hlt | hge
    · have hbefore := hacc.before hlt
      omega
    · have hafter := hacc.after hge
      have hle := hacc.effective_le
      omega
  have hle := hacc.effective_le
  have hdeactivating := hacc.deactivating
  rw [positionOfView_of_stake hkind]
  generalize computeStakeActivation W view.delegation epoch history = a at *
  cases hstatus : a.status with
  | active =>
      simp only [positionAmount, toStakePosition, hkind, if_true, Option.getD_some, hstatus]
      split_ifs <;> omega
  | activating =>
      simp only [positionAmount, toStakePosition, hkind, if_true, Option.getD_some, hstatus]
      split_ifs <;> omega
  | deactivating =>
      obtain ⟨hpos, heq⟩ := hdeactivating hstatus
      simp only [positionAmount, toStakePosition, hkind, if_true, Option.getD_some, hstatus]
      split_ifs <;> omega
  | inactive => exact absurd hstatus hactive

/-- **What a position is reported with** is between zero and the lamports of its account, if a
delegation's stake is. -/
theorem positionAmount_mem (hstake : view.kind = .stake → view.delegatedStake ≤ lamports) :
    0 ≤ positionAmount
        (positionOfView W epoch history stakeAccount seedIndex lamports view) ∧
      positionAmount (positionOfView W epoch history stakeAccount seedIndex lamports view) ≤
        lamports := by
  have hinactive : (positionOfView W epoch history stakeAccount seedIndex lamports view).status =
      .inactive → positionAmount
        (positionOfView W epoch history stakeAccount seedIndex lamports view) = lamports := by
    intro hstatus
    rw [positionAmount, hstatus]
    rfl
  by_cases hkind : view.kind = .stake
  · by_cases hstatus : (computeStakeActivation W view.delegation epoch history).status = .inactive
    · rw [hinactive ((positionOfView_status hkind).trans hstatus)]
      exact ⟨Int.natCast_nonneg _, le_rfl⟩
    · obtain ⟨h0, hle⟩ := positionAmount_le_stake stakeAccount seedIndex lamports hkind hstatus
      exact ⟨h0, hle.trans (by exact_mod_cast hstake hkind)⟩
  · rw [hinactive (positionOfView_status_of_ne hkind)]
    exact ⟨Int.natCast_nonneg _, le_rfl⟩

/-- What is loaded is Active, Pending or Claimable. -/
theorem mapPositionStatus_cases (status : StakePositionStatus) :
    mapPositionStatus status = .active ∨ mapPositionStatus status = .pending ∨
      mapPositionStatus status = .claimable := by
  cases status <;> simp [mapPositionStatus]

end amounts

end GuardianStake.Solana
