import GuardianStake.Solana.SeedScan
import GuardianStake.Solana.StakeAccount

/-!
# Loading positions

`services/load-positions.ts`: shared cache, then the seed scan, then the optional program-account
listing, then one position per account that decodes, is held by the authority alone and is not
empty.

* `ReadsChain` — an RPC that answers all reads from one state of the chain.
* `seedScan_mem` — whatever the scan returns is an account of the chain, owned by the stake program.
* `mergeGpaFallback_mem` — so is whatever the listing adds.
* `loadPositions_mem` — **what a loaded position is**: the view of such an account, with authority
  and lamports checked.
-/

namespace GuardianStake.Solana

open Sdk

/-! ## The code -/

/-- Source: `services/load-positions.ts`, `LoadPositionsConfig`; the warm-up rate is a parameter of
its own. -/
structure LoadPositionsConfig where
  seedScanGapLimit : Option ℤ := none
  seedScanMax : Option ℤ := none
  enableGpaFallback : Option Bool := none
  deriving DecidableEq, Repr

section code

variable (kit : SolanaKit) (W : PerEpochAmounts) (rpc : SolanaRpcClient)

/-- The body of the loop of `mergeGpaFallback`: a row the scan has not found, of the authority. -/
def mergeRow (authority : String) (byAddress : JsMap String ScannedAccount)
    (row : SolanaStakeProgramAccount) : JsMap String ScannedAccount :=
  if byAddress.has row.address then byAddress
  else
    match decodeStakeAccount kit row.data with
    | none => byAddress
    | some view =>
        if view.staker ≠ some authority then byAddress
        else if view.withdrawer ≠ none ∧ view.withdrawer ≠ some authority then byAddress
        else
          byAddress.set row.address
            { account := { address := row.address, lamports := row.lamports, data := row.data,
                           owner := stakeProgramAddress }
              seedIndex := none }

/-- Source: `services/load-positions.ts`, `mergeGpaFallback`. A failed listing changes nothing. -/
def mergeGpaFallback (authority : String) (byAddress : JsMap String ScannedAccount) :
    JsMap String ScannedAccount :=
  match rpc.getProgramAccountsStakeByStaker authority with
  | .error _ => byAddress
  | .ok gpaAccounts => gpaAccounts.foldl (mergeRow kit authority) byAddress

/-- Source: `state/activation.ts`, `stakeHistoryFromEntries`: later entries replace earlier ones. -/
def stakeHistoryFromEntries (entries : List (ℕ × StakeHistoryEntry)) : StakeHistoryMap :=
  fun epoch => (entries.reverse.find? fun e => e.1 = epoch).map Prod.snd

/-- The body of the loop of `loadPositions` over the accounts found: the position of an account, or
none where it `continue`s. -/
def positionOf (authority : String) (epoch : ℕ) (history : StakeHistoryMap)
    (scanned : ScannedAccount) : Option StakePosition :=
  let account := scanned.account
  match decodeStakeAccount kit account.data with
  | none => none
  | some view =>
      if view.staker ≠ some authority ∨ view.withdrawer ≠ some authority then none
      else if account.lamports = 0 then none
      else
        let activation :=
          if view.kind = .stake then
            some (computeStakeActivation W view.delegation epoch history)
          else none
        some (toStakePosition account.address scanned.seedIndex account.lamports view activation)

/-- The comparator of the positions. -/
def comparePositions (a b : StakePosition) : ℤ :=
  let ai : ℤ := (a.seedIndex.map Int.ofNat).getD maxSafeInteger
  let bi : ℤ := (b.seedIndex.map Int.ofNat).getD maxSafeInteger
  if ai ≠ bi then ai - bi
  else if a.stakeAccount < b.stakeAccount then -1
  else if b.stakeAccount < a.stakeAccount then 1
  else 0

/-- The local `byAddress` of `loadPositions`. -/
def discover (config : LoadPositionsConfig) (authority : String) :
    Result (JsMap String ScannedAccount) := do
  let gapLimit := config.seedScanGapLimit.getD defaultSeedScanGapLimit
  let seedMax := config.seedScanMax.getD defaultSeedScanMax
  let byAddress ← seedScan kit rpc authority seedMax gapLimit
  if config.enableGpaFallback = some true then return mergeGpaFallback kit rpc authority byAddress
  else return byAddress

/-- Source: `services/load-positions.ts`, `loadPositions`; `cached` is what the cache holds for the
authority. -/
def loadPositions (cached : Option (List StakePosition)) (config : LoadPositionsConfig)
    (authority : String) : Result (List StakePosition) :=
  match cached with
  | some positions => .ok positions
  | none => do
      let byAddress ← discover kit rpc config authority
      if byAddress.values.length = 0 then return []
      else
        let epoch ← rpc.getClockEpoch
        let historyRows ← rpc.getStakeHistory
        let history := stakeHistoryFromEntries historyRows
        return sort comparePositions
          (byAddress.values.filterMap (positionOf kit W authority epoch history))

end code

/-! ## What is loaded -/

/-- An RPC that answers all reads from one state of the chain; a listing, if it succeeds, lists
accounts of the stake program. -/
structure ReadsChain (rpc : SolanaRpcClient) (accounts : String → Option SolanaAccountInfo)
    (clock : SolanaClock) : Prop extends ReadsAccounts rpc accounts where
  getClock : rpc.getClock = .ok clock
  getClockEpoch : rpc.getClockEpoch = .ok clock.epoch
  getProgramAccounts : ∀ {authority rows},
    rpc.getProgramAccountsStakeByStaker authority = .ok rows → ∀ row ∈ rows,
      accounts row.address =
        some { address := row.address, lamports := row.lamports, data := row.data,
               owner := stakeProgramAddress }

section spec

variable {kit : SolanaKit} {W : PerEpochAmounts} {rpc : SolanaRpcClient}
  {accounts : String → Option SolanaAccountInfo} {clock : SolanaClock} {authority : String}

/-- An entry of what was found: a stake-program account of the chain, under its address. -/
structure StakeEntry (accounts : String → Option SolanaAccountInfo) (e : String × ScannedAccount) :
    Prop where
  key_eq : e.1 = e.2.account.address
  account_eq : accounts e.2.account.address = some e.2.account
  owner_eq : e.2.account.owner = stakeProgramAddress

/-- **Whatever the scan returns** is a stake-program account of the chain. -/
theorem seedScan_mem {seedMax gapLimit : ℤ} (hrpc : ReadsAccounts rpc accounts)
    {found : JsMap String ScannedAccount}
    (h : seedScan kit rpc authority seedMax gapLimit = .ok found) :
    ∀ e ∈ found.entries, StakeEntry accounts e := by
  refine seedScan_forall (fun addresses read hread info hinfo howner i => ?_) h
  rw [hrpc.getMultipleAccounts] at hread
  obtain rfl := Except.ok.inj hread
  -- an account read belongs to the address it carries
  obtain ⟨address, -, haccount⟩ := List.mem_map.mp hinfo
  have haddress := hrpc.address_eq haccount
  exact ⟨rfl, haddress ▸ haccount, howner⟩

/-- A merged row is one, too. -/
theorem mergeRow_mem {byAddress : JsMap String ScannedAccount} {row : SolanaStakeProgramAccount}
    (hbyAddress : ∀ e ∈ byAddress.entries, StakeEntry accounts e)
    (hrow : accounts row.address =
      some { address := row.address, lamports := row.lamports, data := row.data,
             owner := stakeProgramAddress }) :
    ∀ e ∈ (mergeRow kit authority byAddress row).entries, StakeEntry accounts e := by
  unfold mergeRow
  split
  · exact hbyAddress
  · split
    · exact hbyAddress
    · split_ifs
      · exact hbyAddress
      · exact hbyAddress
      · intro e he
        rcases JsMap.mem_entries_set he with rfl | he
        · exact ⟨rfl, hrow, rfl⟩
        · exact hbyAddress e he

/-- **Whatever the listing adds** is a stake-program account of the chain. -/
theorem mergeGpaFallback_mem (hrpc : ReadsChain rpc accounts clock)
    {byAddress : JsMap String ScannedAccount}
    (hbyAddress : ∀ e ∈ byAddress.entries, StakeEntry accounts e) :
    ∀ e ∈ (mergeGpaFallback kit rpc authority byAddress).entries, StakeEntry accounts e := by
  unfold mergeGpaFallback
  cases hrows : rpc.getProgramAccountsStakeByStaker authority with
  | error _ => exact hbyAddress
  | ok rows =>
      have hall := hrpc.getProgramAccounts hrows
      clear hrows
      simp only
      induction rows generalizing byAddress with
      | nil => exact hbyAddress
      | cons row rows ih =>
          obtain ⟨hrow, hrows⟩ := List.forall_mem_cons.mp hall
          exact ih (mergeRow_mem hbyAddress hrow) hrows

/-- Everything discovered is a stake-program account of the chain. -/
theorem discover_mem (hrpc : ReadsChain rpc accounts clock) {config : LoadPositionsConfig}
    {byAddress : JsMap String ScannedAccount}
    (h : discover kit rpc config authority = .ok byAddress) :
    ∀ e ∈ byAddress.entries, StakeEntry accounts e := by
  obtain ⟨scanned, hscan, h⟩ := bind_eq_ok.mp h
  have hscanned := seedScan_mem hrpc.toReadsAccounts hscan
  split at h
  · obtain rfl := Except.ok.inj h
    exact mergeGpaFallback_mem hrpc hscanned
  · obtain rfl := Except.ok.inj h
    exact hscanned

/-- What `positionOf` makes a position of. -/
theorem positionOf_eq_some {epoch : ℕ} {history : StakeHistoryMap} {scanned : ScannedAccount}
    {position : StakePosition}
    (h : positionOf kit W authority epoch history scanned = some position) :
    ∃ view, decodeStakeAccount kit scanned.account.data = some view ∧
      view.staker = some authority ∧ view.withdrawer = some authority ∧
      0 < scanned.account.lamports ∧
      position = positionOfView W epoch history scanned.account.address scanned.seedIndex
        scanned.account.lamports view := by
  unfold positionOf at h
  cases hview : decodeStakeAccount kit scanned.account.data with
  | none => simp [hview] at h
  | some view =>
      simp only [hview] at h
      split at h
      · cases h
      · next hauthority =>
          obtain ⟨hstaker, hwithdrawer⟩ := not_or.mp hauthority
          split at h
          · cases h
          · next hlamports =>
              exact ⟨view, rfl, not_not.mp hstaker, not_not.mp hwithdrawer,
                Nat.pos_of_ne_zero hlamports, (Option.some.inj h).symm⟩

/-- **What a loaded position is**: that of a stake-program account of the chain that decodes, names
the authority as staker and withdrawer, and is not empty, at the clock's epoch. -/
theorem loadPositions_mem (hrpc : ReadsChain rpc accounts clock) {config : LoadPositionsConfig}
    {positions : List StakePosition}
    (h : loadPositions kit W rpc none config authority = .ok positions) :
    ∀ position ∈ positions, ∃ account view seedIndex history,
      accounts account.address = some account ∧ account.owner = stakeProgramAddress ∧
      decodeStakeAccount kit account.data = some view ∧ view.staker = some authority ∧
      view.withdrawer = some authority ∧ 0 < account.lamports ∧
      position = positionOfView W clock.epoch history account.address seedIndex account.lamports
        view := by
  obtain ⟨byAddress, hdiscover, h⟩ := bind_eq_ok.mp h
  have hfound := discover_mem hrpc hdiscover
  split at h
  · obtain rfl := Except.ok.inj h
    exact fun position hposition => absurd hposition List.not_mem_nil
  · obtain ⟨epoch, hepoch, h⟩ := bind_eq_ok.mp h
    obtain rfl := Except.ok.inj (hrpc.getClockEpoch.symm.trans hepoch)
    obtain ⟨rows, -, h⟩ := bind_eq_ok.mp h
    obtain rfl := Except.ok.inj h
    intro position hposition
    obtain ⟨v, hv, hposition⟩ := List.mem_filterMap.mp (mem_sort.mp hposition)
    obtain ⟨view, hview, hstaker, hwithdrawer, hlamports, rfl⟩ := positionOf_eq_some hposition
    obtain ⟨e, he, rfl⟩ := List.mem_map.mp hv
    obtain ⟨-, haccount, howner⟩ := hfound e he
    exact ⟨e.2.account, view, _, _, haccount, howner, hview, hstaker, hwithdrawer, hlamports, rfl⟩

/-- Positions made of accounts with distinct addresses are of distinct accounts. -/
theorem nodup_stakeAccount_filterMap {epoch : ℕ} {history : StakeHistoryMap}
    {l : List ScannedAccount} (hl : (l.map fun v => v.account.address).Nodup) :
    ((l.filterMap (positionOf kit W authority epoch history)).map
      StakePosition.stakeAccount).Nodup := by
  -- a position has the address of the account it is made of
  refine List.Nodup.sublist ?_ hl
  clear hl
  induction l with
  | nil => exact List.Sublist.slnil
  | cons v l ih =>
      rw [List.filterMap_cons]
      cases hposition : positionOf kit W authority epoch history v with
      | none => exact ih.cons _
      | some position =>
          obtain ⟨view, -, -, -, -, rfl⟩ := positionOf_eq_some hposition
          exact ih.cons_cons _

/-- The positions are of distinct accounts. -/
theorem loadPositions_nodup (hrpc : ReadsChain rpc accounts clock) {config : LoadPositionsConfig}
    {positions : List StakePosition}
    (h : loadPositions kit W rpc none config authority = .ok positions) :
    (positions.map StakePosition.stakeAccount).Nodup := by
  obtain ⟨byAddress, hdiscover, h⟩ := bind_eq_ok.mp h
  have hfound := discover_mem hrpc hdiscover
  have hvalues : (byAddress.values.map fun v => v.account.address).Nodup := by
    have hkeys : byAddress.values.map (fun v => v.account.address) =
        byAddress.entries.map Prod.fst := by
      rw [JsMap.values, List.map_map]
      exact List.map_congr_left fun e he => (hfound e he).key_eq.symm
    rw [hkeys]
    exact byAddress.nodup
  split at h
  · obtain rfl := Except.ok.inj h
    exact List.nodup_nil
  · obtain ⟨epoch, -, h⟩ := bind_eq_ok.mp h
    obtain ⟨rows, -, h⟩ := bind_eq_ok.mp h
    obtain rfl := Except.ok.inj h
    rw [((perm_sort _ _).map _).nodup_iff]
    exact nodup_stakeAccount_filterMap hvalues

end spec

end GuardianStake.Solana
