import GuardianStake.Solana.Discovery

/-!
# The batched scan and the plain one

`seedScan` of `services/load-positions.ts` reads the seeds in batches of 50 and leaves off in the
middle of one. The plain scan reads one seed after another.

* `plainScan` — the scan without batches.
* `scanBatch_plainScan` — what is left of a batch is scanned as the plain scan would.
* `seedScan_eq_plainScan` — **the batches do not show**: `seedScan` returns what the plain scan
  does, which is the stake accounts at the indices that no `gapLimit` consecutive absent indices
  lie entirely below.
-/

namespace GuardianStake.Solana

open Sdk Found

section plainScan

variable (accounts : Accounts) (addr : ℕ → String) (gapLimit : ℤ)

/-- The scan of indices one after another, with the number of absent ones just before them. -/
def plainScan : ℕ → List ℕ → List ScannedAccount
  | _, [] => []
  | consecutiveEmpty, i :: indices =>
      match accounts (addr i) with
      | none =>
          if gapLimit ≤ (consecutiveEmpty + 1 : ℕ) then []
          else plainScan (consecutiveEmpty + 1) indices
      | some info =>
          if info.owner = stakeProgramAddress then
            { account := info, seedIndex := some i } :: plainScan 0 indices
          else plainScan 0 indices

/-- No `gapLimit` consecutive absent indices lie entirely below `i`. -/
def NoGapBelow (i : ℕ) : Prop :=
  ¬∃ start : ℕ, start + gapLimit ≤ i ∧
    ∀ k : ℕ, start ≤ k → k < start + gapLimit → accounts (addr k) = none

end plainScan

section spec

variable {kit : SolanaKit} {rpc : SolanaRpcClient} {authority : String} {seedMax gapLimit : ℤ}
  {accounts : Accounts} {addr : ℕ → String} {max : ℕ}

/-- In range, the indices without a gap below them are the reachable ones. -/
theorem noGapBelow_iff (hgap : 1 ≤ gapLimit) {i : ℕ} (hi : i ≤ max) :
    NoGapBelow accounts addr gapLimit i ↔
      Reachable gapLimit.toNat (occupied accounts addr max) i := by
  unfold NoGapBelow Reachable
  push Not
  constructor
  · intro h start hstart
    obtain ⟨k, hk, hlt, hread⟩ := h start (by omega)
    refine ⟨k - start, by omega, ?_⟩
    rw [Nat.add_sub_cancel' hk]
    exact ⟨by omega, hread⟩
  · intro h start hstart
    obtain ⟨k, hk, -, hread⟩ := h start (by omega)
    exact ⟨start + k, by omega, by omega, hread⟩

/-- From any point on, the scan of a batch adds what the plain scan finds. -/
theorem scanBatch_plainScan (hrpc : ReadsAccounts rpc accounts)
    {indices : List ℕ} (hnodup : (indices.map addr).Nodup) {s : ScanState}
    (hkeys : ∀ i ∈ indices, addr i ∉ s.found.entries.map Prod.fst) :
    (scanBatch gapLimit s (indices.map fun i => (i, accounts (addr i)))).1.found.values =
      s.found.values ++ plainScan accounts addr gapLimit s.consecutiveEmpty indices := by
  induction indices generalizing s with
  | nil => simp [scanBatch, plainScan]
  | cons i indices ih =>
      rw [List.map_cons, List.nodup_cons] at hnodup
      obtain ⟨hi, hnodup⟩ := hnodup
      obtain ⟨hkey, hkeys⟩ := List.forall_mem_cons.mp hkeys
      rw [List.map_cons]
      cases hinfo : accounts (addr i) with
      | none =>
          simp only [scanBatch, plainScan, hinfo]
          split
          · simp
          · exact ih hnodup hkeys
      | some info =>
          simp only [scanBatch, plainScan, hinfo]
          by_cases howner : info.owner = stakeProgramAddress
          · rw [if_neg (not_not.mpr howner), if_pos howner]
            have haddress := hrpc.address_eq hinfo
            have hentries := JsMap.entries_set_of_notMem (haddress ▸ hkey)
              ({ account := info, seedIndex := some i } : ScannedAccount)
            rw [ih hnodup ?_]
            · simp [JsMap.values, hentries]
            · -- the address just found is that of no later index
              intro j hj hmem
              rw [hentries, List.map_append, List.mem_append] at hmem
              rcases hmem with hmem | hmem
              · exact hkeys j hj hmem
              · rw [List.map_singleton, List.mem_singleton, haddress] at hmem
                exact hi (List.mem_map.mpr ⟨j, hj, hmem⟩)
          · rw [if_pos howner, if_neg howner]
            exact ih hnodup hkeys

/-- What stands among the scanned accounts of a list of indices. -/
theorem mem_filterMap_scannedEntry {indices : List ℕ} {scanned : ScannedAccount} :
    scanned ∈ (indices.filterMap (scannedEntry accounts addr)).map Prod.snd ↔
      ∃ i ∈ indices, scanned.seedIndex = some i ∧ accounts (addr i) = some scanned.account ∧
        scanned.account.owner = stakeProgramAddress := by
  rw [List.mem_map]
  constructor
  · rintro ⟨e, he, rfl⟩
    obtain ⟨i, hi, hentry⟩ := List.mem_filterMap.mp he
    obtain ⟨info, hinfo, hentry⟩ := Option.bind_eq_some_iff.mp hentry
    split at hentry
    case isTrue howner =>
      obtain rfl := Option.some.inj hentry
      exact ⟨i, hi, rfl, hinfo, howner⟩
    case isFalse => cases hentry
  · rintro ⟨i, hi, hindex, hread, howner⟩
    refine ⟨(addr i, scanned), List.mem_filterMap.mpr ⟨i, hi, ?_⟩, rfl⟩
    obtain ⟨account, seedIndex⟩ := scanned
    obtain rfl : seedIndex = some i := hindex
    rw [scannedEntry, hread, Option.bind_some, if_pos howner]

/-- **The batched scan is the plain scan.** Over positional reads and distinct seed addresses,
`seedScan` returns what the plain scan of `0 … seedMax` finds, under the addresses of the accounts:
the stake-program accounts, each with its index, at the indices without a gap below them. -/
theorem seedScan_eq_plainScan (hrpc : ReadsAccounts rpc accounts)
    (haddr : SeedAddresses kit authority seedMax.toNat addr) (hmax : 0 ≤ seedMax)
    (hgap : 1 ≤ gapLimit) :
    ∃ found, seedScan kit rpc authority seedMax gapLimit = .ok found ∧
      found.values = plainScan accounts addr gapLimit 0 (List.range (seedMax.toNat + 1)) ∧
      found.entries.map Prod.fst = found.values.map (fun scanned => scanned.account.address) ∧
      ∀ scanned, scanned ∈ found.values ↔ ∃ i ≤ seedMax.toNat, scanned.seedIndex = some i ∧
        accounts (addr i) = some scanned.account ∧
        scanned.account.owner = stakeProgramAddress ∧ NoGapBelow accounts addr gapLimit i := by
  classical
  have hloop := seedScanLoop_eq_ok gapLimit (batchStarts seedMax) hrpc haddr
    (fun _ _ _ hi => le_of_mem_batchIndices hmax hi)
    { found := JsMap.empty, consecutiveEmpty := 0 }
  rw [flatMap_batchStarts hmax] at hloop
  obtain ⟨found, hfound, hentries⟩ := seedScan_eq_ok hrpc haddr hmax hgap
  have hsame : found = (scanBatch gapLimit { found := JsMap.empty, consecutiveEmpty := 0 }
      ((List.range (seedMax.toNat + 1)).map fun i => (i, accounts (addr i)))).1.found := by
    rw [seedScan, hloop] at hfound
    exact (Except.ok.inj hfound).symm
  have hnodup : ((List.range (seedMax.toNat + 1)).map addr).Nodup := by
    refine List.Nodup.map_on (fun i hi j hj => ?_) List.nodup_range
    rw [List.mem_range, Nat.lt_succ_iff] at hi hj
    exact haddr.injOn i hi j hj
  refine ⟨found, hfound, ?_, ?_, fun scanned => ?_⟩
  · rw [hsame, scanBatch_plainScan hrpc hnodup (by simp [JsMap.empty])]
    rfl
  · rw [JsMap.values, List.map_map, hentries]
    apply List.map_congr_left
    intro e he
    obtain ⟨i, -, hentry⟩ := List.mem_filterMap.mp he
    obtain ⟨info, hinfo, hentry⟩ := Option.bind_eq_some_iff.mp hentry
    split at hentry
    case isTrue =>
      obtain rfl := Option.some.inj hentry
      exact (hrpc.address_eq hinfo).symm
    case isFalse => cases hentry
  · rw [JsMap.values, hentries, mem_filterMap_scannedEntry]
    refine exists_congr fun i => ?_
    rw [List.mem_filter, List.mem_range, Nat.lt_succ_iff, decide_eq_true_eq, and_assoc]
    refine and_congr_right fun hi => ?_
    rw [noGapBelow_iff hgap hi]
    tauto

end spec

/-- The wallet with accounts at the seeds 0, 3 and 9: the last one is out of reach. -/
theorem seedScan_eq_plainScan_wallet :
    ∃ found, seedScan walletKit (rpcOf (walletAt {0, 3, 9})) wallet defaultSeedScanMax
        defaultSeedScanGapLimit = .ok found ∧
      found.values = [{ account := walletAccount 0, seedIndex := some 0 },
        { account := walletAccount 3, seedIndex := some 3 }] := by
  obtain ⟨found, hfound, hvalues, -, -⟩ := seedScan_eq_plainScan
    (show ReadsAccounts (rpcOf (walletAt {0, 3, 9})) (walletAt {0, 3, 9}) from
      ⟨fun _ => rfl, (stakeAccounts_walletAt {0, 3, 9}).address_eq⟩)
    seedAddresses_wallet (by decide : 0 ≤ defaultSeedScanMax)
    (by decide : 1 ≤ defaultSeedScanGapLimit)
  refine ⟨found, hfound, hvalues.trans ?_⟩
  decide +kernel

end GuardianStake.Solana
