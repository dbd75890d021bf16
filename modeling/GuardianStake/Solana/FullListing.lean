import GuardianStake.Solana.BalanceService
import GuardianStake.Solana.PositionList

/-!
# Positions from a full listing

With the program-account listing on, what the seed scan misses is listed. If the listing shows every
stake account of the authority, the positions are those of the chain, and the limits of the scan decide
nothing but the seed indices.

* `ListsStaker` — a listing that shows every account whose data names the authority as its staker.
* `loadPositions_complete` — **the positions are the chain's**.
* `getBalances_limits_irrelevant` — the balances are the same for all limits of the scan.
-/

namespace GuardianStake.Solana

open Sdk

/-- A listing that succeeds and shows every account of the stake program whose data names the
authority as its staker. -/
def ListsStaker (kit : SolanaKit) (rpc : SolanaRpcClient)
    (accounts : String → Option SolanaAccountInfo) (authority : String) : Prop :=
  ∃ rows, rpc.getProgramAccountsStakeByStaker authority = .ok rows ∧
    ∀ address info view, accounts address = some info → info.owner = stakeProgramAddress →
      decodeStakeAccount kit info.data = some view → view.staker = some authority →
        address ∈ rows.map SolanaStakeProgramAccount.address

/-- A position without the seed index it was found at. -/
def StakePosition.unindexed (position : StakePosition) : StakePosition :=
  { position with seedIndex := none }

/-- An account of the chain that counts for an authority, and the view of its data. -/
structure Counts (kit : SolanaKit) (accounts : String → Option SolanaAccountInfo)
    (authority address : String) (info : SolanaAccountInfo) (view : StakeAccountView) : Prop where
  read : accounts address = some info
  owner : info.owner = stakeProgramAddress
  decoded : decodeStakeAccount kit info.data = some view
  staker : view.staker = some authority
  withdrawer : view.withdrawer = some authority
  lamports : info.lamports ≠ 0

section spec

variable {kit : SolanaKit} {W : PerEpochAmounts} {rpc : SolanaRpcClient}
  {accounts : String → Option SolanaAccountInfo} {clock : SolanaClock} {authority : String}
  {config : LoadPositionsConfig} {historyRows : List (ℕ × StakeHistoryEntry)}
  {positions : List StakePosition}

/-- An account that either source shows is an account of the chain. -/
theorem account_eq_of_mem_seenAccounts (hrpc : ReadsChain rpc accounts clock)
    {scanned : JsMap String ScannedAccount} {seedMax gapLimit : ℤ}
    (hscan : seedScan kit rpc authority seedMax gapLimit = .ok scanned) {found : ScannedAccount}
    (hfound : found ∈ seenAccounts scanned (gpaRows rpc config authority)) :
    accounts found.account.address = some found.account ∧
      found.account.owner = stakeProgramAddress := by
  rcases List.mem_append.mp hfound with hmem | hmem
  · obtain ⟨e, he, rfl⟩ := List.mem_map.mp hmem
    have hentry := seedScan_mem hrpc.toReadsAccounts hscan e he
    exact ⟨hentry.account_eq, hentry.owner_eq⟩
  · obtain ⟨row, hrow, rfl⟩ := List.mem_map.mp hmem
    unfold gpaRows at hrow
    split at hrow
    · split at hrow
      · cases hrow
      · next hrows => exact ⟨hrpc.getProgramAccounts hrows row hrow, rfl⟩
    · cases hrow

/-- The positions of one load have different addresses. -/
theorem nodup_stakeAccount_of_load (hrpc : ReadsChain rpc accounts clock)
    (hhistory : rpc.getStakeHistory = .ok historyRows)
    (h : loadPositions kit W rpc none config authority = .ok positions) :
    (positions.map StakePosition.stakeAccount).Nodup := by
  have hload := h
  obtain ⟨byAddress, hdiscover, -⟩ := bind_eq_ok.mp h
  obtain ⟨scanned, hscan, -⟩ := bind_eq_ok.mp hdiscover
  obtain ⟨positions', hload', -, hnodup, -⟩ :=
    loadPositions_listed hscan hrpc.getClockEpoch hhistory (W := W)
  obtain rfl := Except.ok.inj (hload.symm.trans hload')
  exact hnodup

/-- The positions, but for their seed indices, are those of the accounts that count. -/
theorem mem_unindexed_iff (hrpc : ReadsChain rpc accounts clock)
    (hlists : ListsStaker kit rpc accounts authority)
    (henabled : config.enableGpaFallback = some true)
    (hhistory : rpc.getStakeHistory = .ok historyRows)
    (h : loadPositions kit W rpc none config authority = .ok positions)
    (position : StakePosition) :
    position ∈ positions.map StakePosition.unindexed ↔
      ∃ address info view, Counts kit accounts authority address info view ∧
        position = positionOfView W clock.epoch (stakeHistoryFromEntries historyRows) address none
          info.lamports view := by
  have hload := h
  obtain ⟨byAddress, hdiscover, -⟩ := bind_eq_ok.mp h
  obtain ⟨scanned, hscan, -⟩ := bind_eq_ok.mp hdiscover
  obtain ⟨positions', hload', hmem, -⟩ :=
    loadPositions_listed hscan hrpc.getClockEpoch hhistory (W := W)
  obtain rfl := Except.ok.inj (hload.symm.trans hload')
  rw [List.mem_map]
  constructor
  · rintro ⟨indexed, hindexed, rfl⟩
    obtain ⟨address, found, hat, hposition⟩ := (hmem indexed).mp hindexed
    obtain ⟨view, hview, hstaker, hwithdrawer, hlamports, rfl⟩ :=
      positionOf_eq_some_iff.mp hposition
    obtain ⟨hread, howner⟩ := account_eq_of_mem_seenAccounts hrpc hscan (accountAt_mem hat)
    exact ⟨_, found.account, view, ⟨hread, howner, hview, hstaker, hwithdrawer, hlamports⟩, rfl⟩
  · rintro ⟨address, info, view, hcounts, rfl⟩
    -- the listing shows the account, so something stands for its address
    obtain ⟨rows, hrows, hall⟩ := hlists
    obtain ⟨row, hrow, rfl⟩ := List.mem_map.mp
      (hall address info view hcounts.read hcounts.owner hcounts.decoded hcounts.staker)
    have hgpa : gpaRows rpc config authority = rows := by
      rw [gpaRows, if_pos henabled, hrows]
    have hseen : scannedOfRow row ∈ seenAccounts scanned (gpaRows rpc config authority) := by
      rw [hgpa]
      exact List.mem_append_right _ (List.mem_map_of_mem hrow)
    obtain ⟨hread, -⟩ := account_eq_of_mem_seenAccounts hrpc hscan hseen
    obtain rfl := Option.some.inj (hcounts.read.symm.trans hread)
    obtain ⟨found, hat⟩ := accountAt_isSome hscan hseen (namesAuthority_eq_true.mpr
      ⟨view, hcounts.decoded, hcounts.staker, hcounts.withdrawer⟩)
    obtain ⟨hread', -⟩ := account_eq_of_mem_seenAccounts hrpc hscan (accountAt_mem hat)
    rw [accountAt_address hscan hat] at hread'
    have hsame : found.account = (scannedOfRow row).account :=
      Option.some.inj (hread'.symm.trans hread)
    refine ⟨_, (hmem _).mpr ⟨_, found, hat, positionOf_eq_some_iff.mpr
      ⟨view, ?_, hcounts.staker, hcounts.withdrawer, ?_, rfl⟩⟩, ?_⟩
    · rw [hsame]
      exact hcounts.decoded
    · rw [hsame]
      exact hcounts.lamports
    · rw [hsame]
      rfl

/-- **With a full listing the positions are the chain's**: one for every account of the stake program
that names the authority as staker and withdrawer and is not empty, with the chain's amounts, whatever
the limits of the scan and whatever gaps the seeds have. -/
theorem loadPositions_complete (hrpc : ReadsChain rpc accounts clock)
    (hlists : ListsStaker kit rpc accounts authority)
    (henabled : config.enableGpaFallback = some true)
    (hhistory : rpc.getStakeHistory = .ok historyRows)
    (h : loadPositions kit W rpc none config authority = .ok positions) :
    (positions.map StakePosition.stakeAccount).Nodup ∧
      ∀ position, position ∈ positions.map StakePosition.unindexed ↔
        ∃ address info view, Counts kit accounts authority address info view ∧
          position = positionOfView W clock.epoch (stakeHistoryFromEntries historyRows) address none
            info.lamports view :=
  ⟨nodup_stakeAccount_of_load hrpc hhistory h, mem_unindexed_iff hrpc hlists henabled hhistory h⟩

/-- A total counts positions, not seed indices. -/
theorem stakeTotals_totalOf_unindexed (positions : List StakePosition) (status : DelegationStatus) :
    (stakeTotals positions).totalOf status =
      (((positions.map StakePosition.unindexed).filter fun p =>
        mapPositionStatus p.status = status).map positionAmount).sum := by
  rw [stakeTotals_totalOf, List.filter_map, List.map_map]
  rfl

/-- **The limits of the scan are irrelevant**: with a full listing, calls with any two of them return
the same balances. -/
theorem getBalances_limits_irrelevant (hrpc : ReadsChain rpc accounts clock)
    (hlists : ListsStaker kit rpc accounts authority) {config' : LoadPositionsConfig}
    (henabled : config.enableGpaFallback = some true)
    (henabled' : config'.enableGpaFallback = some true)
    (hhistory : rpc.getStakeHistory = .ok historyRows) {balances balances' : List Balance}
    (h : getBalances kit W rpc none config authority = .ok balances)
    (h' : getBalances kit W rpc none config' authority = .ok balances') : balances = balances' := by
  obtain ⟨available, havailable, h⟩ := bind_eq_ok.mp h
  obtain ⟨positions, hload, h⟩ := bind_eq_ok.mp h
  obtain ⟨available', havailable', h'⟩ := bind_eq_ok.mp h'
  obtain ⟨positions', hload', h'⟩ := bind_eq_ok.mp h'
  obtain rfl := Except.ok.inj (havailable.symm.trans havailable')
  have hnodup := nodup_stakeAccount_of_load hrpc hhistory hload
  have hnodup' := nodup_stakeAccount_of_load hrpc hhistory hload'
  have hmem := mem_unindexed_iff hrpc hlists henabled hhistory hload
  have hmem' := mem_unindexed_iff hrpc hlists henabled' hhistory hload'
  -- the same positions, up to their indices and their order
  have hdistinct : ∀ {l : List StakePosition}, (l.map StakePosition.stakeAccount).Nodup →
      (l.map StakePosition.unindexed).Nodup := by
    intro l hl
    have hkey : l.map StakePosition.stakeAccount =
        (l.map StakePosition.unindexed).map StakePosition.stakeAccount := by
      rw [List.map_map]
      rfl
    rw [hkey] at hl
    exact hl.of_map
  have hperm : (positions.map StakePosition.unindexed).Perm
      (positions'.map StakePosition.unindexed) :=
    (List.perm_ext_iff_of_nodup (hdistinct hnodup) (hdistinct hnodup')).mpr fun position =>
      (hmem position).trans (hmem' position).symm
  have htotal : ∀ status, (stakeTotals positions).totalOf status =
      (stakeTotals positions').totalOf status := by
    intro status
    rw [stakeTotals_totalOf_unindexed, stakeTotals_totalOf_unindexed]
    exact ((hperm.filter _).map _).sum_eq
  have hsame : stakeTotals positions = stakeTotals positions' := by
    have hstaked := htotal .active
    have hpending := htotal .pending
    have hclaimable := htotal .claimable
    cases hleft : stakeTotals positions with
    | mk staked pending claimable =>
        cases hright : stakeTotals positions' with
        | mk staked' pending' claimable' =>
            rw [hleft, hright] at hstaked hpending hclaimable
            exact congr (congr (congrArg StakeTotals.mk hstaked) hpending) hclaimable
  rw [← Except.ok.inj h, ← Except.ok.inj h', hsame]

end spec

/-! ### A wallet with a gap -/

/-- The chain with accounts at the wallet's seeds 0 and 30, out of reach of the scan. -/
def gapAccounts : Accounts :=
  Function.update (firstSeedAccounts unlockedData) (walletAddress 30) (some
    { address := walletAddress 30, lamports := 1002282880, data := unlockedData,
      owner := stakeProgramAddress })

/-- An RPC on that chain, with a full listing. -/
def gapRpc : SolanaRpcClient :=
  { rpcOf gapAccounts with
    getClock := .ok firstSeedClock
    getClockEpoch := .ok firstSeedClock.epoch
    getProgramAccountsStakeByStaker := fun _ => .ok [walletRow 30, walletRow 0] }

/-- What the chain of that wallet holds. -/
theorem gapAccounts_eq_some {address : String} {info : SolanaAccountInfo}
    (h : gapAccounts address = some info) :
    (address = walletAddress 30 ∨ address = walletAddress 0) ∧
      info = { address, lamports := 1002282880, data := unlockedData,
               owner := stakeProgramAddress } := by
  simp only [gapAccounts, firstSeedAccounts, Function.update_apply] at h
  split_ifs at h with h30 h0
  · exact ⟨.inl h30, h30 ▸ (Option.some.inj h).symm⟩
  · exact ⟨.inr h0, h0 ▸ (Option.some.inj h).symm⟩

theorem readsChain_gapRpc : ReadsChain gapRpc gapAccounts firstSeedClock := by
  refine ⟨⟨fun _ => rfl, fun {address info} h => ?_⟩, rfl, rfl, fun {authority rows} h => ?_⟩
  · rw [(gapAccounts_eq_some h).2]
  · obtain rfl := Except.ok.inj h
    intro row hrow
    rcases List.mem_pair.mp hrow with rfl | rfl
    · exact Function.update_self ..
    · rw [gapAccounts, Function.update_of_ne (by decide)]
      exact Function.update_self ..

theorem listsStaker_gapRpc : ListsStaker firstSeedKit gapRpc gapAccounts wallet := by
  refine ⟨_, rfl, fun address info view hread _ _ _ => ?_⟩
  rcases (gapAccounts_eq_some hread).1 with rfl | rfl
  · exact List.mem_cons_self
  · exact List.mem_cons_of_mem _ List.mem_cons_self

/-- The listing shows the account behind the gap. -/
theorem loadPositions_complete_gap :
    listedPosition 30 ∈ [firstSeedPosition unlockedState, listedPosition 30].map
      StakePosition.unindexed ∧
    ∃ address info view, Counts firstSeedKit gapAccounts wallet address info view ∧
      listedPosition 30 = positionOfView oneLamport firstSeedClock.epoch
        (stakeHistoryFromEntries []) address none info.lamports view := by
  have hload : loadPositions firstSeedKit oneLamport gapRpc none listingConfig wallet =
      .ok [firstSeedPosition unlockedState, listedPosition 30] := by decide +kernel
  have hmem := (loadPositions_complete readsChain_gapRpc listsStaker_gapRpc rfl rfl hload).2
    (listedPosition 30)
  have hin : listedPosition 30 ∈ [firstSeedPosition unlockedState, listedPosition 30].map
      StakePosition.unindexed := by decide +kernel
  exact ⟨hin, hmem.mp hin⟩

/-- The scan that stops at the gap and one that does not give the same balances. -/
theorem getBalances_limits_irrelevant_gap :
    getBalances firstSeedKit oneLamport gapRpc none
        { enableGpaFallback := some true, seedScanGapLimit := some 40 } wallet =
      getBalances firstSeedKit oneLamport gapRpc none listingConfig wallet := by
  have hstop : getBalances firstSeedKit oneLamport gapRpc none listingConfig wallet =
      .ok (balancesOf 0 { staked := 0, pending := 0, claimable := 2004565760 }) := by decide +kernel
  obtain ⟨balances, hall⟩ : ∃ balances, getBalances firstSeedKit oneLamport gapRpc none
      { enableGpaFallback := some true, seedScanGapLimit := some 40 } wallet = .ok balances :=
    ⟨balancesOf 0 { staked := 0, pending := 0, claimable := 2004565760 }, by decide +kernel⟩
  rw [hstop, hall, getBalances_limits_irrelevant readsChain_gapRpc listsStaker_gapRpc rfl rfl rfl
    hall hstop]

end GuardianStake.Solana
