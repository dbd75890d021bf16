import GuardianStake.Solana.StakeGates
import GuardianStake.Solana.StakingService

/-!
# Solana balances, and that they never over-report

`services/balance-service.ts` folds the loaded positions into three totals;
`services/staking-service.ts` lists them one by one. Both loops drop what is worth nothing.

* `stakeTotals_totalOf` — a total is the sum of the amounts of the positions with its status.
* `getBalances_agrees_getDelegations` — **balances never over-report**: each position is in exactly
  one total, with the amount and the status it is listed with, and the totals together are within
  the lamports of the accounts.
-/

namespace GuardianStake.Solana

open Sdk

/-! ## The code -/

/-- The locals `staked`, `pending` and `claimable` of `getBalances`. -/
structure StakeTotals where
  staked : ℤ
  pending : ℤ
  claimable : ℤ
  deriving DecidableEq, Repr

/-- The body of the loop of `getBalances`. -/
def StakeTotals.add (totals : StakeTotals) (position : StakePosition) : StakeTotals :=
  let amount := positionAmount position
  if amount = 0 then totals
  else
    match mapPositionStatus position.status with
    | .active => { totals with staked := totals.staked + amount }
    | .pending => { totals with pending := totals.pending + amount }
    | .claimable => { totals with claimable := totals.claimable + amount }
    | .inactive | .frozen => totals

/-- The loop of `getBalances`. -/
def stakeTotals (positions : List StakePosition) : StakeTotals :=
  positions.foldl StakeTotals.add { staked := 0, pending := 0, claimable := 0 }

/-- The balances `getBalances` returns. -/
def balancesOf (available : ℤ) (totals : StakeTotals) : List Balance :=
  [{ type := .available, amount := available }, { type := .staked, amount := totals.staked },
    { type := .pending, amount := totals.pending },
    { type := .claimable, amount := totals.claimable }]

/-- Source: `services/balance-service.ts`, `getBalances`; `cached` is what the cache holds. -/
def getBalances (kit : SolanaKit) (W : PerEpochAmounts) (rpc : SolanaRpcClient)
    (cached : Option (List StakePosition)) (config : LoadPositionsConfig) (address : String) :
    Result (List Balance) := do
  let available ← rpc.getBalance address
  let positions ← loadPositions kit W rpc cached config address
  return balancesOf available (stakeTotals positions)

/-! ## The two loops -/

/-- The total a status is counted in. -/
def StakeTotals.totalOf (totals : StakeTotals) : DelegationStatus → ℤ
  | .active => totals.staked
  | .pending => totals.pending
  | .claimable => totals.claimable
  | .inactive | .frozen => 0

/-- **Step**: a position is added to the total of its status and to no other. -/
theorem StakeTotals.totalOf_add (totals : StakeTotals) (position : StakePosition)
    (status : DelegationStatus) :
    (totals.add position).totalOf status = totals.totalOf status +
      if mapPositionStatus position.status = status then positionAmount position else 0 := by
  unfold StakeTotals.add
  by_cases hzero : positionAmount position = 0
  · simp [hzero]
  · simp only [if_neg hzero]
    rcases mapPositionStatus_cases position.status with h | h | h <;>
      cases status <;> simp [h, StakeTotals.totalOf]

/-- **Run**: a total is the sum of the amounts of the positions with its status. -/
theorem stakeTotals_totalOf (positions : List StakePosition) (status : DelegationStatus) :
    (stakeTotals positions).totalOf status =
      ((positions.filter fun p => mapPositionStatus p.status = status).map positionAmount).sum := by
  have hfold : ∀ totals : StakeTotals, (positions.foldl StakeTotals.add totals).totalOf status =
      totals.totalOf status +
        ((positions.filter fun p => mapPositionStatus p.status = status).map positionAmount).sum := by
    induction positions with
    | nil => simp
    | cons position positions ih =>
        intro totals
        rw [List.foldl_cons, ih, StakeTotals.totalOf_add, add_assoc]
        by_cases h : mapPositionStatus position.status = status <;> simp [h]
  rw [stakeTotals, hfold]
  cases status <;> simp [StakeTotals.totalOf]

/-- The delegations of a status add up to the positions of that status: what is dropped is worth
nothing. -/
theorem totalWithStatus_delegationsOf (byVote : JsMap String Validator) (epochBoundaryMs : ℕ)
    (positions : List StakePosition) (status : DelegationStatus) :
    totalWithStatus status (delegationsOf byVote epochBoundaryMs positions) =
      ((positions.filter fun p => mapPositionStatus p.status = status).map positionAmount).sum := by
  induction positions with
  | nil => rfl
  | cons position positions ih =>
      simp only [totalWithStatus, delegationsOf] at ih ⊢
      by_cases hzero : positionAmount position = 0
      · rw [List.filter_cons_of_neg (by simpa using hzero), ih, List.filter_cons]
        split <;> simp [hzero]
      · rw [List.filter_cons_of_pos (by simpa using hzero), List.map_cons, List.filter_cons,
          List.filter_cons]
        have hstatus : (delegationOf byVote epochBoundaryMs position).status =
            mapPositionStatus position.status := rfl
        rw [hstatus]
        split
        · rw [List.map_cons, List.map_cons, List.sum_cons, List.sum_cons, ih]
          rfl
        · exact ih

/-- The three statuses exhaust what is loaded. -/
theorem sum_stakeTotals (positions : List StakePosition) :
    (stakeTotals positions).staked + (stakeTotals positions).pending +
      (stakeTotals positions).claimable = (positions.map positionAmount).sum := by
  have hactive := stakeTotals_totalOf positions .active
  have hpending := stakeTotals_totalOf positions .pending
  have hclaimable := stakeTotals_totalOf positions .claimable
  simp only [StakeTotals.totalOf] at hactive hpending hclaimable
  rw [hactive, hpending, hclaimable]
  clear hactive hpending hclaimable
  induction positions with
  | nil => rfl
  | cons position positions ih =>
      rw [List.map_cons, List.sum_cons, ← ih]
      rcases mapPositionStatus_cases position.status with h | h | h <;> simp [h] <;> ring

/-! ## Agreement -/

/-- What the stake program keeps: a delegation is backed by the account's lamports. -/
def StakeBacked (kit : SolanaKit) (accounts : String → Option SolanaAccountInfo) : Prop :=
  ∀ address account view, accounts address = some account → account.owner = stakeProgramAddress →
    decodeStakeAccount kit account.data = some view → view.kind = .stake →
    view.delegatedStake + view.rentExemptReserve ≤ account.lamports

/-- The lamports of an account of the chain. -/
def lamportsOf (accounts : String → Option SolanaAccountInfo) (address : String) : ℕ :=
  ((accounts address).map SolanaAccountInfo.lamports).getD 0

/-- The listing of the positions: each that is worth something, with its account, amount and
status. -/
def Listed (positions : List StakePosition) (ds : List Delegation) : Prop :=
  ds.map (fun d => (d.id, d.amount, d.status)) =
    (positions.filter fun p => positionAmount p ≠ 0).map fun p =>
      (p.stakeAccount, positionAmount p, mapPositionStatus p.status)

/-- The three totals are those of the three statuses, and nothing has another status. -/
structure CountedOnce (bs : List Balance) (ds : List Delegation) : Prop where
  staked : totalOfType .staked bs = totalWithStatus .active ds
  pending : totalOfType .pending bs = totalWithStatus .pending ds
  claimable : totalOfType .claimable bs = totalWithStatus .claimable ds
  status : ∀ d ∈ ds, d.status = .active ∨ d.status = .pending ∨ d.status = .claimable

section agreement

variable {kit : SolanaKit} {W : PerEpochAmounts} {rpc : StakingRpcClient}
  {accounts : String → Option SolanaAccountInfo} {clock : SolanaClock} {authority : String}
  {config : LoadPositionsConfig} {positions : List StakePosition}

/-- A load that hits a cache filled by a load returns the same positions. -/
theorem loadPositions_of_shared {cached : Option (List StakePosition)}
    (hload : loadPositions kit W rpc.toSolanaRpcClient none config authority = .ok positions)
    (hcached : cached = none ∨ cached = some positions) :
    loadPositions kit W rpc.toSolanaRpcClient cached config authority = .ok positions := by
  rcases hcached with rfl | rfl
  · exact hload
  · rfl

/-- A loaded position is reported with an amount within the lamports of its account. -/
theorem loadPositions_amount (hrpc : ReadsChain rpc.toSolanaRpcClient accounts clock)
    (hbacked : StakeBacked kit accounts)
    (hload : loadPositions kit W rpc.toSolanaRpcClient none config authority = .ok positions) :
    ∀ p ∈ positions, 0 ≤ positionAmount p ∧
      positionAmount p ≤ lamportsOf accounts p.stakeAccount := by
  intro p hp
  obtain ⟨account, view, seedIndex, history, haccount, howner, hview, -, -, -, rfl⟩ :=
    loadPositions_mem hrpc hload p hp
  have hlamports : lamportsOf accounts account.address = account.lamports := by
    rw [lamportsOf, haccount]
    rfl
  change _ ∧ _ ≤ ((lamportsOf accounts account.address : ℕ) : ℤ)
  rw [hlamports]
  refine positionAmount_mem fun hkind => ?_
  have hle := hbacked _ account view haccount howner hview hkind
  omega

/-- **Solana balances never over-report.** On a chain whose delegations are backed, whatever the
clock's epoch, the stake history and the amounts an epoch moves, and whether or not either service
finds the positions cached: each position worth something is listed with its amount and status and
counted in the total of that status alone, the accounts are distinct, and the totals are within
their lamports. -/
theorem getBalances_agrees_getDelegations
    (hrpc : ReadsChain rpc.toSolanaRpcClient accounts clock) (hbacked : StakeBacked kit accounts)
    (hload : loadPositions kit W rpc.toSolanaRpcClient none config authority = .ok positions)
    {cached cached' : Option (List StakePosition)}
    (hcached : cached = none ∨ cached = some positions)
    (hcached' : cached' = none ∨ cached' = some positions)
    {cachedVotes : Option VoteAccountsResult} {nowMs : ℕ} {bs : List Balance}
    {ds : List Delegation}
    (hbs : getBalances kit W rpc.toSolanaRpcClient cached config authority = .ok bs)
    (hds : getDelegations kit W rpc cached' cachedVotes config nowMs authority = .ok ds) :
    Listed positions ds ∧ (∀ d ∈ ds, 0 < d.amount) ∧ CountedOnce bs ds ∧
      (positions.map StakePosition.stakeAccount).Nodup ∧
      totalOfType .staked bs + totalOfType .pending bs + totalOfType .claimable bs ≤
        (positions.map fun p => (lamportsOf accounts p.stakeAccount : ℤ)).sum := by
  have hamount := loadPositions_amount hrpc hbacked hload
  obtain ⟨available, -, hbs⟩ := bind_eq_ok.mp hbs
  obtain ⟨loaded, hloaded, hbs⟩ := bind_eq_ok.mp hbs
  obtain rfl := Except.ok.inj ((loadPositions_of_shared hload hcached).symm.trans hloaded)
  obtain rfl := Except.ok.inj hbs
  obtain ⟨listed, byVote, epochBoundaryMs, hlisted, rfl⟩ := getDelegations_eq_ok hds
  obtain rfl := Except.ok.inj ((loadPositions_of_shared hload hcached').symm.trans hlisted)
  have htotal : ∀ status, totalWithStatus status (delegationsOf byVote epochBoundaryMs positions) =
      (stakeTotals positions).totalOf status := fun status =>
    (totalWithStatus_delegationsOf byVote epochBoundaryMs positions status).trans
      (stakeTotals_totalOf positions status).symm
  have hstaked : totalOfType .staked (balancesOf available (stakeTotals positions)) =
      (stakeTotals positions).staked := by simp [totalOfType, balancesOf]
  have hpending : totalOfType .pending (balancesOf available (stakeTotals positions)) =
      (stakeTotals positions).pending := by simp [totalOfType, balancesOf]
  have hclaimable : totalOfType .claimable (balancesOf available (stakeTotals positions)) =
      (stakeTotals positions).claimable := by simp [totalOfType, balancesOf]
  refine ⟨?_, ?_, ⟨?_, ?_, ?_, ?_⟩, loadPositions_nodup hrpc hload, ?_⟩
  · rw [Listed, delegationsOf, List.map_map]
    rfl
  · intro d hd
    obtain ⟨p, hp, rfl⟩ := List.mem_map.mp hd
    obtain ⟨hp, hne⟩ := List.mem_filter.mp hp
    exact lt_of_le_of_ne (hamount p hp).1 (Ne.symm (of_decide_eq_true hne))
  · rw [hstaked, htotal]
    rfl
  · rw [hpending, htotal]
    rfl
  · rw [hclaimable, htotal]
    rfl
  · intro d hd
    obtain ⟨p, -, rfl⟩ := List.mem_map.mp hd
    exact mapPositionStatus_cases p.status
  · rw [hstaked, hpending, hclaimable, sum_stakeTotals]
    exact List.sum_le_sum fun p hp => (hamount p hp).2

end agreement

/-! ### Three accounts -/

/-- One SOL delegated at epoch 700 and deactivated at epoch 800. -/
def leavingState : StakeStateV2 :=
  .stake (walletMeta 0)
    { voterPubkey := "CertusDeBmqN8ZawdkxK5kFGMwBXdudvWHYwtNgNhvLu", stake := 1000000000,
      activationEpoch := 700, deactivationEpoch := 800, creditsObserved := 0 }

@[inherit_doc leavingState]
def leavingData : List UInt8 :=
  [2, 0, 0, 0] ++ metaData (List.replicate 8 0) ++ voterBytes ++ [0, 202, 154, 59, 0, 0, 0, 0] ++
    [188, 2, 0, 0, 0, 0, 0, 0] ++ [32, 3, 0, 0, 0, 0, 0, 0] ++ [0, 0, 0, 0, 0, 0, 208, 63] ++
    List.replicate 8 0 ++ List.replicate 4 0

/-- Kit on the wallet: a delegation, one that is deactivating, and no delegation. -/
def mixedKit : SolanaKit :=
  { firstSeedKit with
    decode := fun data =>
      if data = delegatedData then some delegatedState
      else if data = leavingData then some leavingState
      else if data = unlockedData then some unlockedState
      else none }

/-- What the wallet's first three stake accounts hold. -/
def mixedData : List (List UInt8) := [delegatedData, leavingData, unlockedData]

/-- The chain with these accounts. -/
def mixedAccounts : Accounts := fun address =>
  ((walletIndex address).bind fun i => mixedData[i]?).map fun data =>
    { address, lamports := 1002282880, data, owner := stakeProgramAddress }

/-- An RPC on that chain, with one validator in the current set. -/
def mixedRpc : StakingRpcClient :=
  { rpcOf mixedAccounts with
    getClock := .ok firstSeedClock
    getClockEpoch := .ok firstSeedClock.epoch
    getVoteAccounts :=
      .ok { current := [{ votePubkey := "CertusDeBmqN8ZawdkxK5kFGMwBXdudvWHYwtNgNhvLu" }],
            delinquent := [] }
    getEpochInfo := .ok { slotIndex := 1000, slotsInEpoch := 432000 } }

/-- The accounts of that chain. -/
theorem mixedAccounts_eq_some {address : String} {info : SolanaAccountInfo}
    (h : mixedAccounts address = some info) :
    ∃ data ∈ mixedData,
      info = { address, lamports := 1002282880, data, owner := stakeProgramAddress } := by
  obtain ⟨data, hdata, rfl⟩ := Option.map_eq_some_iff.mp h
  obtain ⟨i, -, hi⟩ := Option.bind_eq_some_iff.mp hdata
  exact ⟨data, List.mem_of_getElem? hi, rfl⟩

theorem readsChain_mixedRpc :
    ReadsChain mixedRpc.toSolanaRpcClient mixedAccounts firstSeedClock := by
  refine ⟨⟨fun _ => rfl, fun {address info} h => ?_⟩, rfl, rfl, fun {authority rows} h => ?_⟩
  · obtain ⟨data, -, rfl⟩ := mixedAccounts_eq_some h
    rfl
  · obtain rfl := Except.ok.inj h
    exact fun row hrow => absurd hrow List.not_mem_nil

/-- The stake and the reserve of each account are within its lamports. -/
theorem stakeBacked_mixed : StakeBacked mixedKit mixedAccounts := by
  intro address account view haccount _ hview _
  obtain ⟨data, hdata, rfl⟩ := mixedAccounts_eq_some haccount
  have hbacked : ∀ data ∈ mixedData, ((decodeStakeAccount mixedKit data).all fun view =>
      view.delegatedStake + view.rentExemptReserve ≤ 1002282880) = true := by
    decide +kernel
  have hview' := hbacked data hdata
  rw [hview] at hview'
  exact of_decide_eq_true hview'

/-- The positions of the three accounts, at epoch 800. -/
def mixedPositions : List StakePosition :=
  [toStakePosition (walletAddress 0) (some 0) 1002282880 (mapState delegatedState)
      (some (withStatus 1000000000 0 0)),
    toStakePosition (walletAddress 1) (some 1) 1002282880 (mapState leavingState)
      (some (withStatus 1000000000 0 1000000000)),
    toStakePosition (walletAddress 2) (some 2) 1002282880 (mapState unlockedState) none]

/-- At epoch 800 each is counted once, as Staked, Pending and Claimable, after one service filled the
cache for the other. -/
theorem delegatedPosition_reported :
    ∃ ds, getBalances mixedKit oneLamport mixedRpc.toSolanaRpcClient none {} wallet =
        .ok (balancesOf 0 ⟨1000000000, 1000000000, 1002282880⟩) ∧
      getDelegations mixedKit oneLamport mixedRpc (some mixedPositions) none {} 1750000000000
        wallet = .ok ds ∧
      Listed mixedPositions ds ∧
      ds.map Delegation.status = [.active, .pending, .claimable] := by
  have hload : loadPositions mixedKit oneLamport mixedRpc.toSolanaRpcClient none {} wallet =
      .ok mixedPositions := by decide +kernel
  have hbs : getBalances mixedKit oneLamport mixedRpc.toSolanaRpcClient none {} wallet =
      .ok (balancesOf 0 ⟨1000000000, 1000000000, 1002282880⟩) := by decide +kernel
  have hds : getDelegations mixedKit oneLamport mixedRpc (some mixedPositions) none {}
      1750000000000 wallet = .ok _ := rfl
  obtain ⟨hlisted, -⟩ := getBalances_agrees_getDelegations readsChain_mixedRpc stakeBacked_mixed
    hload (Or.inl rfl) (Or.inr rfl) hbs hds
  exact ⟨_, hbs, hds, hlisted, by decide +kernel⟩

end GuardianStake.Solana
