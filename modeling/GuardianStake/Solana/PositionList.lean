import GuardianStake.Solana.StakeGates

/-!
# The list of positions

`services/load-positions.ts` joins two sources in a map, the seed scan and the program-account
listing, keeps the accounts that count and sorts what is left.

* `accountAt` — what stands for an address: the scanned account, or the first row of the listing
  there whose data names the authority.
* `get_foldl_mergeRow` — the merge leaves exactly that in the map.
* `Precedes` — the order of the list, strict on positions of different accounts.
* `loadPositions_eq_ok` — **what is returned**: one position for each address where what stands for
  it counts, in that order, whatever the order of a listing of distinct addresses.
-/

namespace GuardianStake.Solana

open Sdk

/-! ## What stands for an address -/

section accountAt

variable (kit : SolanaKit) (rpc : SolanaRpcClient) (config : LoadPositionsConfig)
  (authority : String)

/-- The data decodes and names the authority as staker and as withdrawer. -/
def namesAuthority (data : List UInt8) : Bool :=
  match decodeStakeAccount kit data with
  | none => false
  | some view => view.staker = some authority && view.withdrawer = some authority

/-- What `mergeGpaFallback` makes of a row. -/
def scannedOfRow (row : SolanaStakeProgramAccount) : ScannedAccount :=
  { account := { address := row.address, lamports := row.lamports, data := row.data,
                 owner := stakeProgramAddress }
    seedIndex := none }

/-- The rows of the listing: none where it is off or fails. -/
def gpaRows : List SolanaStakeProgramAccount :=
  if config.enableGpaFallback = some true then
    match rpc.getProgramAccountsStakeByStaker authority with
    | .error _ => []
    | .ok rows => rows
  else []

/-- What stands for an address: the scanned account, else the first row there that names the
authority. -/
def accountAt (scanned : JsMap String ScannedAccount) (rows : List SolanaStakeProgramAccount)
    (address : String) : Option ScannedAccount :=
  (scanned.get address).or
    ((rows.find? fun row => row.address = address ∧ namesAuthority kit authority row.data).map
      scannedOfRow)

end accountAt

/-- The accounts of both sources. -/
def seenAccounts (scanned : JsMap String ScannedAccount) (rows : List SolanaStakeProgramAccount) :
    List ScannedAccount :=
  scanned.values ++ rows.map scannedOfRow

/-- Accounts seen at one address are the same account in the same state. -/
def Agree (accounts : List ScannedAccount) : Prop :=
  ∀ a ∈ accounts, ∀ b ∈ accounts, a.account.address = b.account.address →
    a.account.data = b.account.data ∧ a.account.lamports = b.account.lamports

/-- One position for each address among the accounts that count, whichever source they are from. -/
def OnePerAddress (kit : SolanaKit) (authority : String) (accounts : List ScannedAccount)
    (positions : List StakePosition) : Prop :=
  ∀ address, address ∈ positions.map StakePosition.stakeAccount ↔
    ∃ found ∈ accounts, found.account.address = address ∧
      namesAuthority kit authority found.account.data = true ∧ found.account.lamports ≠ 0

/-- The order of positions: by seed index, then by address, those without an index last. (No index
a `number` counts up to is `MAX_SAFE_INTEGER`.) -/
def Precedes (a b : StakePosition) : Prop :=
  match a.seedIndex, b.seedIndex with
  | some i, some j => i < j ∨ i = j ∧ a.stakeAccount < b.stakeAccount
  | some _, none => True
  | none, some j => maxSafeInteger ≤ j
  | none, none => a.stakeAccount < b.stakeAccount

section spec

variable {kit : SolanaKit} {W : PerEpochAmounts} {rpc : SolanaRpcClient}
  {config : LoadPositionsConfig} {authority : String}

/-! ### The map -/

/-- A stake state that names a staker names a withdrawer. -/
theorem withdrawer_ne_none {data : List UInt8} {view : StakeAccountView}
    (hview : decodeStakeAccount kit data = some view) (hstaker : view.staker = some authority) :
    view.withdrawer ≠ none := by
  obtain ⟨-, hnone, -⟩ | ⟨-, -, hwithdrawer⟩ := decodeStakeAccount_cases hview
  · rw [hnone] at hstaker
    cases hstaker
  · exact hwithdrawer

/-- A row is merged if its address is new and its data names the authority. -/
theorem mergeRow_eq (byAddress : JsMap String ScannedAccount) (row : SolanaStakeProgramAccount) :
    mergeRow kit authority byAddress row =
      if byAddress.has row.address = false ∧ namesAuthority kit authority row.data = true then
        byAddress.set row.address (scannedOfRow row)
      else byAddress := by
  unfold mergeRow namesAuthority
  cases hhas : byAddress.has row.address with
  | true => simp
  | false =>
      cases hview : decodeStakeAccount kit row.data with
      | none => simp
      | some view =>
          by_cases hstaker : view.staker = some authority
          · have hwithdrawer := withdrawer_ne_none hview hstaker
            by_cases heq : view.withdrawer = some authority
            · simp [hstaker, heq, scannedOfRow]
            · simp [hstaker, heq, hwithdrawer]
          · simp [hstaker]

/-- **The merge**: an address keeps the account it has, and gets the first row there that names the
authority if it has none. -/
theorem get_foldl_mergeRow (byAddress : JsMap String ScannedAccount)
    (rows : List SolanaStakeProgramAccount) (address : String) :
    (rows.foldl (mergeRow kit authority) byAddress).get address =
      accountAt kit authority byAddress rows address := by
  induction rows generalizing byAddress with
  | nil => simp [accountAt]
  | cons row rows ih =>
      rw [List.foldl_cons, ih, mergeRow_eq]
      unfold accountAt
      by_cases hrow : row.address = address ∧ namesAuthority kit authority row.data = true
      · obtain ⟨rfl, hnames⟩ := hrow
        rw [List.find?_cons_of_pos (by simp [hnames]), JsMap.has_eq_isSome]
        cases hget : byAddress.get row.address with
        | none => simp [hnames, JsMap.get_set]
        | some scanned => simp [hget]
      · rw [List.find?_cons_of_neg (by simpa using hrow)]
        split
        · next hmerge =>
            have hne : address ≠ row.address := fun heq => hrow ⟨heq.symm, hmerge.2⟩
            rw [JsMap.get_set, if_neg hne]
        · rfl

/-- What was discovered, address by address. -/
theorem discover_eq_ok {scanned : JsMap String ScannedAccount}
    (hscan : seedScan kit rpc authority (config.seedScanMax.getD defaultSeedScanMax)
      (config.seedScanGapLimit.getD defaultSeedScanGapLimit) = .ok scanned) :
    ∃ byAddress, discover kit rpc config authority = .ok byAddress ∧
      ∀ address, byAddress.get address =
        accountAt kit authority scanned (gpaRows rpc config authority) address := by
  unfold discover gpaRows
  simp only [hscan, bind, Except.bind]
  by_cases henabled : config.enableGpaFallback = some true
  · refine ⟨mergeGpaFallback kit rpc authority scanned, by simp [henabled]; rfl,
      fun address => ?_⟩
    rw [if_pos henabled, mergeGpaFallback]
    cases rpc.getProgramAccountsStakeByStaker authority with
    | error _ => simp [accountAt]
    | ok rows => exact get_foldl_mergeRow scanned rows address
  · exact ⟨scanned, by simp [henabled]; rfl, fun address => by simp [henabled, accountAt]⟩

/-- The scan files accounts under their addresses. -/
theorem seedScan_key_eq {seedMax gapLimit : ℤ} {scanned : JsMap String ScannedAccount}
    (hscan : seedScan kit rpc authority seedMax gapLimit = .ok scanned) :
    ∀ e ∈ scanned.entries, e.1 = e.2.account.address :=
  seedScan_forall (fun _ _ _ _ _ _ _ => rfl) hscan

/-- What stands for an address has that address. -/
theorem accountAt_address {scanned : JsMap String ScannedAccount} {seedMax gapLimit : ℤ}
    (hscan : seedScan kit rpc authority seedMax gapLimit = .ok scanned)
    {rows : List SolanaStakeProgramAccount} {address : String} {found : ScannedAccount}
    (h : accountAt kit authority scanned rows address = some found) :
    found.account.address = address := by
  rcases Option.or_eq_some_iff.mp h with hget | ⟨-, hrow⟩
  · exact (seedScan_key_eq hscan _ (JsMap.get_eq_some_iff.mp hget)).symm
  · obtain ⟨row, hfind, rfl⟩ := Option.map_eq_some_iff.mp hrow
    have := List.find?_some hfind
    simp only [decide_eq_true_eq] at this
    exact this.1

/-! ### The order -/

/-- The seed index as the comparator reads it. -/
def seedKey (position : StakePosition) : ℤ :=
  (position.seedIndex.map Int.ofNat).getD maxSafeInteger

/-- What the comparator says. -/
theorem comparePositions_nonpos_iff (a b : StakePosition) :
    comparePositions a b ≤ 0 ↔
      seedKey a < seedKey b ∨ seedKey a = seedKey b ∧ a.stakeAccount ≤ b.stakeAccount := by
  unfold comparePositions seedKey
  simp only
  split
  · omega
  · next heq =>
      rw [not_not] at heq
      rw [heq, lt_self_iff_false, false_or, and_iff_right rfl]
      rcases lt_trichotomy a.stakeAccount b.stakeAccount with hlt | hsame | hgt
      · simp [hlt, hlt.le]
      · simp [hsame]
      · simp [hgt, hgt.not_gt, hgt.not_ge]

theorem comparePositions_total (a b : StakePosition) :
    comparePositions a b ≤ 0 ∨ comparePositions b a ≤ 0 := by
  rw [comparePositions_nonpos_iff, comparePositions_nonpos_iff]
  rcases lt_trichotomy (seedKey a) (seedKey b) with hlt | heq | hgt
  · exact .inl (.inl hlt)
  · exact (le_total a.stakeAccount b.stakeAccount).imp (fun h => .inr ⟨heq, h⟩)
      fun h => .inr ⟨heq.symm, h⟩
  · exact .inr (.inl hgt)

theorem comparePositions_trans (a b c : StakePosition) (hab : comparePositions a b ≤ 0)
    (hbc : comparePositions b c ≤ 0) : comparePositions a c ≤ 0 := by
  rw [comparePositions_nonpos_iff] at hab hbc ⊢
  rcases hab with hab | ⟨hab, haccount⟩
  · rcases hbc with hbc | ⟨hbc, -⟩
    · exact .inl (hab.trans hbc)
    · exact .inl (hab.trans_eq hbc)
  · rcases hbc with hbc | ⟨hbc, haccount'⟩
    · exact .inl (hab.trans_lt hbc)
    · exact .inr ⟨hab.trans hbc, haccount.trans haccount'⟩

/-- Positions of different accounts in the comparator's order are in that of the list. -/
theorem precedes_of_comparePositions {a b : StakePosition} (h : comparePositions a b ≤ 0)
    (hne : a.stakeAccount ≠ b.stakeAccount) : Precedes a b := by
  rw [comparePositions_nonpos_iff] at h
  unfold Precedes
  unfold seedKey at h
  cases ha : a.seedIndex with
  | none =>
      cases hb : b.seedIndex with
      | none =>
          simp only [ha, hb, lt_self_iff_false, false_or, true_and] at h
          exact lt_of_le_of_ne h hne
      | some j =>
          simp only [ha, hb, Option.map_none, Option.map_some, Option.getD_none,
            Option.getD_some] at h
          simp only
          rcases h with h | ⟨h, -⟩
          · exact h.le
          · exact h.le
  | some i =>
      cases hb : b.seedIndex with
      | none => trivial
      | some j =>
          simp only [ha, hb, Option.map_some, Option.getD_some, Int.ofNat_eq_natCast,
            Nat.cast_lt, Nat.cast_inj] at h
          exact h.imp_right fun hij => ⟨hij.1, lt_of_le_of_ne hij.2 hne⟩

/-- A list of positions of different accounts in order is determined by its members. -/
theorem eq_of_mem_iff_of_sorted {l l' : List StakePosition}
    (hl : l.Pairwise fun a b => comparePositions a b ≤ 0)
    (hl' : l'.Pairwise fun a b => comparePositions a b ≤ 0)
    (hnodup : (l.map StakePosition.stakeAccount).Nodup)
    (hnodup' : (l'.map StakePosition.stakeAccount).Nodup) (hmem : ∀ p, p ∈ l ↔ p ∈ l') :
    l = l' := by
  have hperm : l.Perm l' :=
    (List.perm_ext_iff_of_nodup hnodup.of_map hnodup'.of_map).mpr hmem
  refine hperm.eq_of_pairwise (fun a b ha hb hab hba => ?_) hl hl'
  -- positions that tie are of the same account
  have haccount : a.stakeAccount = b.stakeAccount := by
    rw [comparePositions_nonpos_iff] at hab hba
    rcases hab with hab | ⟨hkey, hab⟩ <;> rcases hba with hba | ⟨hkey', hba⟩
    · omega
    · omega
    · omega
    · exact le_antisymm hab hba
  exact List.inj_on_of_nodup_map hnodup ha ((hmem b).mpr hb) haccount

/-! ### The list -/

/-- What becomes a position. -/
theorem positionOf_eq_some_iff {epoch : ℕ} {history : StakeHistoryMap} {found : ScannedAccount}
    {position : StakePosition} :
    positionOf kit W authority epoch history found = some position ↔
      ∃ view, decodeStakeAccount kit found.account.data = some view ∧
        view.staker = some authority ∧ view.withdrawer = some authority ∧
        found.account.lamports ≠ 0 ∧
        position = positionOfView W epoch history found.account.address found.seedIndex
          found.account.lamports view := by
  constructor
  · intro h
    obtain ⟨view, hview, hstaker, hwithdrawer, hlamports, heq⟩ := positionOf_eq_some h
    exact ⟨view, hview, hstaker, hwithdrawer, hlamports.ne', heq⟩
  · rintro ⟨view, hview, hstaker, hwithdrawer, hlamports, rfl⟩
    unfold positionOf
    simp [hview, hstaker, hwithdrawer, hlamports, positionOfView]

/-- What is returned, from what was discovered. -/
theorem loadPositions_of_discover {byAddress : JsMap String ScannedAccount} {epoch : ℕ}
    {historyRows : List (ℕ × StakeHistoryEntry)}
    (hdiscover : discover kit rpc config authority = .ok byAddress)
    (hepoch : rpc.getClockEpoch = .ok epoch) (hhistory : rpc.getStakeHistory = .ok historyRows) :
    loadPositions kit W rpc none config authority =
      .ok (sort comparePositions (byAddress.values.filterMap
        (positionOf kit W authority epoch (stakeHistoryFromEntries historyRows)))) := by
  unfold loadPositions
  simp only [hdiscover, bind, Except.bind]
  split
  · next hempty =>
      rw [List.length_eq_zero_iff.mp hempty]
      rfl
  · simp only [hepoch, hhistory]
    rfl

/-- A listing of distinct addresses may come in any order. -/
theorem accountAt_perm {scanned : JsMap String ScannedAccount}
    {rows rows' : List SolanaStakeProgramAccount} (hperm : rows.Perm rows')
    (hnodup : (rows.map SolanaStakeProgramAccount.address).Nodup) (address : String) :
    accountAt kit authority scanned rows address =
      accountAt kit authority scanned rows' address := by
  have hfind : ∀ l l' : List SolanaStakeProgramAccount, l.Perm l' →
      (l.map SolanaStakeProgramAccount.address).Nodup → ∀ row,
      l.find? (fun row => row.address = address ∧ namesAuthority kit authority row.data) =
        some row →
      l'.find? (fun row => row.address = address ∧ namesAuthority kit authority row.data) =
        some row := by
    intro l l' hl hl' row hrow
    have hpred := List.find?_some hrow
    have hmem := hl.subset (List.mem_of_find?_eq_some hrow)
    cases hother : l'.find? (fun row =>
        row.address = address ∧ namesAuthority kit authority row.data) with
    | none => exact absurd hpred (List.find?_eq_none.mp hother row hmem)
    | some row' =>
        have hpred' := List.find?_some hother
        have hmem' := hl.symm.subset (List.mem_of_find?_eq_some hother)
        simp only [decide_eq_true_eq] at hpred hpred'
        rw [List.inj_on_of_nodup_map hl' (hl.symm.subset hmem) hmem'
          (hpred.1.trans hpred'.1.symm)]
  unfold accountAt
  congr 2
  cases hrow : rows.find? (fun row =>
      row.address = address ∧ namesAuthority kit authority row.data) with
  | some row => exact (hfind rows rows' hperm hnodup row hrow).symm
  | none =>
      cases hrow' : rows'.find? (fun row =>
          row.address = address ∧ namesAuthority kit authority row.data) with
      | none => rfl
      | some row =>
          have hnodup' := (hperm.map SolanaStakeProgramAccount.address).nodup_iff.mp hnodup
          rw [hfind rows' rows hperm.symm hnodup' row hrow'] at hrow
          cases hrow

/-- Data that names the authority, by its view. -/
theorem namesAuthority_eq_true {data : List UInt8} :
    namesAuthority kit authority data = true ↔
      ∃ view, decodeStakeAccount kit data = some view ∧ view.staker = some authority ∧
        view.withdrawer = some authority := by
  unfold namesAuthority
  cases decodeStakeAccount kit data with
  | none => simp
  | some view => simp

/-- What stands for an address was seen there. -/
theorem accountAt_mem {scanned : JsMap String ScannedAccount}
    {rows : List SolanaStakeProgramAccount} {address : String} {found : ScannedAccount}
    (h : accountAt kit authority scanned rows address = some found) :
    found ∈ seenAccounts scanned rows := by
  unfold seenAccounts
  rw [List.mem_append]
  rcases Option.or_eq_some_iff.mp h with hget | ⟨-, hrow⟩
  · exact .inl (List.mem_map.mpr ⟨_, JsMap.get_eq_some_iff.mp hget, rfl⟩)
  · obtain ⟨row, hfind, rfl⟩ := Option.map_eq_some_iff.mp hrow
    exact .inr (List.mem_map_of_mem (List.mem_of_find?_eq_some hfind))

/-- Where an account that names the authority was seen, some account stands for its address. -/
theorem accountAt_isSome {scanned : JsMap String ScannedAccount} {seedMax gapLimit : ℤ}
    (hscan : seedScan kit rpc authority seedMax gapLimit = .ok scanned)
    {rows : List SolanaStakeProgramAccount} {seen : ScannedAccount}
    (hseen : seen ∈ seenAccounts scanned rows)
    (hnames : namesAuthority kit authority seen.account.data = true) :
    ∃ found, accountAt kit authority scanned rows seen.account.address = some found := by
  rw [← Option.isSome_iff_exists, accountAt, Option.isSome_or, Bool.or_eq_true, Option.isSome_map]
  rcases List.mem_append.mp hseen with hmem | hmem
  · obtain ⟨⟨key, _⟩, he, rfl⟩ := List.mem_map.mp hmem
    have hkey : key = _ := seedScan_key_eq hscan _ he
    exact .inl (Option.isSome_iff_exists.mpr ⟨_, JsMap.get_eq_some_iff.mpr (hkey ▸ he)⟩)
  · obtain ⟨row, hrow, rfl⟩ := List.mem_map.mp hmem
    exact .inr (List.find?_isSome.mpr ⟨row, hrow, by simpa using ⟨rfl, hnames⟩⟩)

/-- The list of what stands for the addresses: a position of each, in order. -/
theorem loadPositions_listed {scanned : JsMap String ScannedAccount} {epoch : ℕ}
    {historyRows : List (ℕ × StakeHistoryEntry)}
    (hscan : seedScan kit rpc authority (config.seedScanMax.getD defaultSeedScanMax)
      (config.seedScanGapLimit.getD defaultSeedScanGapLimit) = .ok scanned)
    (hepoch : rpc.getClockEpoch = .ok epoch) (hhistory : rpc.getStakeHistory = .ok historyRows) :
    ∃ positions, loadPositions kit W rpc none config authority = .ok positions ∧
      (∀ position, position ∈ positions ↔ ∃ address found,
        accountAt kit authority scanned (gpaRows rpc config authority) address = some found ∧
        positionOf kit W authority epoch (stakeHistoryFromEntries historyRows) found =
          some position) ∧
      (positions.map StakePosition.stakeAccount).Nodup ∧
      positions.Pairwise fun a b => comparePositions a b ≤ 0 := by
  obtain ⟨byAddress, hdiscover, hget⟩ := discover_eq_ok hscan
  refine ⟨_, loadPositions_of_discover hdiscover hepoch hhistory, fun position => ?_, ?_,
    pairwise_sort comparePositions_total comparePositions_trans _⟩
  · simp only [mem_sort, List.mem_filterMap, JsMap.values, List.mem_map, ← hget,
      JsMap.get_eq_some_iff]
    constructor
    · rintro ⟨found, ⟨⟨address, _⟩, he, rfl⟩, hposition⟩
      exact ⟨address, _, he, hposition⟩
    · rintro ⟨address, found, he, hposition⟩
      exact ⟨found, ⟨(address, found), he, rfl⟩, hposition⟩
  · rw [((perm_sort _ _).map _).nodup_iff]
    apply nodup_stakeAccount_filterMap
    have hkeys : byAddress.values.map (fun v => v.account.address) =
        byAddress.entries.map Prod.fst := by
      rw [JsMap.values, List.map_map]
      apply List.map_congr_left
      rintro ⟨address, found⟩ he
      exact accountAt_address hscan ((hget address).symm.trans (JsMap.get_eq_some_iff.mpr he))
    rw [hkeys]
    exact byAddress.nodup

/-- Where the accounts seen at one address agree, such a list has a position of every account that
counts. -/
theorem onePerAddress_of_mem_iff {scanned : JsMap String ScannedAccount} {seedMax gapLimit : ℤ}
    (hscan : seedScan kit rpc authority seedMax gapLimit = .ok scanned)
    {rows : List SolanaStakeProgramAccount} {epoch : ℕ} {history : StakeHistoryMap}
    {positions : List StakePosition}
    (hmem : ∀ position, position ∈ positions ↔ ∃ address found,
      accountAt kit authority scanned rows address = some found ∧
      positionOf kit W authority epoch history found = some position)
    (hagree : Agree (seenAccounts scanned rows)) :
    OnePerAddress kit authority (seenAccounts scanned rows) positions := by
  intro address
  rw [List.mem_map]
  constructor
  · rintro ⟨position, hposition, rfl⟩
    obtain ⟨address, found, hat, hposition⟩ := (hmem position).mp hposition
    obtain ⟨view, hview, hstaker, hwithdrawer, hlamports, rfl⟩ :=
      positionOf_eq_some_iff.mp hposition
    exact ⟨found, accountAt_mem hat, rfl,
      namesAuthority_eq_true.mpr ⟨view, hview, hstaker, hwithdrawer⟩, hlamports⟩
  · rintro ⟨seen, hseen, rfl, hnames, hlamports⟩
    obtain ⟨found, hat⟩ := accountAt_isSome hscan hseen hnames
    have haddress := accountAt_address hscan hat
    obtain ⟨hdata, hsame⟩ := hagree found (accountAt_mem hat) seen hseen haddress
    obtain ⟨view, hview, hstaker, hwithdrawer⟩ := namesAuthority_eq_true.mp hnames
    exact ⟨_, (hmem _).mpr ⟨_, found, hat, positionOf_eq_some_iff.mpr
      ⟨view, hdata ▸ hview, hstaker, hwithdrawer, hsame ▸ hlamports, rfl⟩⟩, haddress⟩

/-- **What is returned.** On a cache miss, whatever the scan finds and whatever is listed: one
position for each address where what stands for it decodes, names the authority as staker and
withdrawer and is not empty, with the seed index it was scanned at, and nothing else; in order; and
the same list for any listing of the same rows, if their addresses are distinct. -/
theorem loadPositions_eq_ok {scanned : JsMap String ScannedAccount} {epoch : ℕ}
    {historyRows : List (ℕ × StakeHistoryEntry)}
    (hscan : seedScan kit rpc authority (config.seedScanMax.getD defaultSeedScanMax)
      (config.seedScanGapLimit.getD defaultSeedScanGapLimit) = .ok scanned)
    (hepoch : rpc.getClockEpoch = .ok epoch) (hhistory : rpc.getStakeHistory = .ok historyRows) :
    ∃ positions, loadPositions kit W rpc none config authority = .ok positions ∧
      (∀ position, position ∈ positions ↔ ∃ address found view,
        accountAt kit authority scanned (gpaRows rpc config authority) address = some found ∧
        decodeStakeAccount kit found.account.data = some view ∧
        view.staker = some authority ∧ view.withdrawer = some authority ∧
        found.account.lamports ≠ 0 ∧
        position = positionOfView W epoch (stakeHistoryFromEntries historyRows) address
          found.seedIndex found.account.lamports view) ∧
      (positions.map StakePosition.stakeAccount).Nodup ∧
      (Agree (seenAccounts scanned (gpaRows rpc config authority)) →
        OnePerAddress kit authority (seenAccounts scanned (gpaRows rpc config authority))
          positions) ∧
      positions.Pairwise Precedes ∧
      ∀ rpc' : SolanaRpcClient,
        seedScan kit rpc' authority (config.seedScanMax.getD defaultSeedScanMax)
          (config.seedScanGapLimit.getD defaultSeedScanGapLimit) = .ok scanned →
        rpc'.getClockEpoch = .ok epoch → rpc'.getStakeHistory = .ok historyRows →
        (gpaRows rpc config authority).Perm (gpaRows rpc' config authority) →
        ((gpaRows rpc config authority).map SolanaStakeProgramAccount.address).Nodup →
        loadPositions kit W rpc' none config authority = .ok positions := by
  obtain ⟨positions, hload, hmem, hnodup, hsorted⟩ :=
    loadPositions_listed hscan hepoch hhistory
  refine ⟨positions, hload, fun position => ?_, hnodup, onePerAddress_of_mem_iff hscan hmem, ?_, ?_⟩
  · rw [hmem]
    refine exists_congr fun address => exists_congr fun found => ?_
    constructor
    · rintro ⟨hat, hposition⟩
      obtain ⟨view, hview, hstaker, hwithdrawer, hlamports, heq⟩ :=
        positionOf_eq_some_iff.mp hposition
      rw [accountAt_address hscan hat] at heq
      exact ⟨view, hat, hview, hstaker, hwithdrawer, hlamports, heq⟩
    · rintro ⟨view, hat, hview, hstaker, hwithdrawer, hlamports, heq⟩
      rw [← accountAt_address hscan hat] at heq
      exact ⟨hat, positionOf_eq_some_iff.mpr
        ⟨view, hview, hstaker, hwithdrawer, hlamports, heq⟩⟩
  · rw [List.Nodup, List.pairwise_map] at hnodup
    exact (hsorted.and hnodup).imp fun h => precedes_of_comparePositions h.1 h.2
  · intro rpc' hscan' hepoch' hhistory' hperm hdistinct
    obtain ⟨positions', hload', hmem', hnodup', hsorted'⟩ :=
      loadPositions_listed hscan' hepoch' hhistory'
    rw [hload', eq_of_mem_iff_of_sorted hsorted hsorted' hnodup hnodup' fun position => ?_]
    simp only [hmem, hmem', accountAt_perm hperm hdistinct]

end spec

/-! ### Two readings of one account -/

/-- A row of the listing for a stake account at a seed of the wallet. -/
def walletRow (i : ℕ) : SolanaStakeProgramAccount :=
  { address := walletAddress i, lamports := 1002282880, data := unlockedData }

/-- The chain with one account, at the wallet's first seed, as the scan reads it, and the rows of a
later listing. -/
def listingRpc (data : List UInt8) (rows : List SolanaStakeProgramAccount) : SolanaRpcClient :=
  { firstSeedRpc data with getProgramAccountsStakeByStaker := fun _ => .ok rows }

/-- With the listing on. -/
def listingConfig : LoadPositionsConfig := { enableGpaFallback := some true }

/-- What the scan finds. -/
def firstSeedScanned (data : List UInt8) : JsMap String ScannedAccount :=
  JsMap.empty.set (walletAddress 0)
    { account := { address := walletAddress 0, lamports := 1002282880, data,
                   owner := stakeProgramAddress }
      seedIndex := some 0 }

/-- The position of an account that only the listing shows. -/
def listedPosition (i : ℕ) : StakePosition :=
  toStakePosition (walletAddress i) none 1002282880 (mapState unlockedState) none

/-- The list of the account and of one that only the listing shows, from the rows in the other
order. -/
theorem loadPositions_eq_ok_listing :
    loadPositions firstSeedKit oneLamport (listingRpc unlockedData [walletRow 0, walletRow 30])
      none listingConfig wallet = .ok [firstSeedPosition unlockedState, listedPosition 30] := by
  have hscan : ∀ rows, seedScan firstSeedKit (listingRpc unlockedData rows) wallet
      (listingConfig.seedScanMax.getD defaultSeedScanMax)
      (listingConfig.seedScanGapLimit.getD defaultSeedScanGapLimit) =
        .ok (firstSeedScanned unlockedData) := fun _ => rfl
  obtain ⟨positions, hload, -, -, -, -, hany⟩ := loadPositions_eq_ok (W := oneLamport)
    (hscan [walletRow 30, walletRow 0]) rfl rfl
  have hpositions : loadPositions firstSeedKit oneLamport
      (listingRpc unlockedData [walletRow 30, walletRow 0]) none listingConfig wallet =
        .ok [firstSeedPosition unlockedState, listedPosition 30] := by decide +kernel
  rw [← hpositions, hload]
  exact hany (listingRpc unlockedData [walletRow 0, walletRow 30]) (hscan _) rfl rfl
    (List.Perm.swap _ _ _) (by decide +kernel)

/-- **An account initialized between the scan and the listing**: both sources show it, the listing
with the wallet as its authorities, and no position is returned. -/
theorem loadPositions_scannedFirst :
    loadPositions blankKit oneLamport (listingRpc blankData [walletRow 0]) none listingConfig
        wallet = .ok [] ∧
      ∃ scanned, seedScan blankKit (listingRpc blankData [walletRow 0]) wallet defaultSeedScanMax
          defaultSeedScanGapLimit = .ok scanned ∧
        ¬OnePerAddress blankKit wallet
          (seenAccounts scanned (gpaRows (listingRpc blankData [walletRow 0]) listingConfig wallet))
          [] := by
  refine ⟨by decide +kernel, firstSeedScanned blankData, by rfl, fun hone => ?_⟩
  have hmem := (hone (walletAddress 0)).mpr
    ⟨scannedOfRow (walletRow 0), by decide +kernel, rfl, by decide +kernel, by decide⟩
  exact List.not_mem_nil hmem

end GuardianStake.Solana
