import GuardianStake.Found.Gaps
import GuardianStake.Solana.Types

/-!
# Seeds: the writer and the reader

`findNextFreeSeed` of `tx/tx-builder.ts` picks the seed of a new stake account, `seedScan` of
`services/load-positions.ts` finds the accounts again. The scan fetches indices in batches and
stops in the middle of one after `gapLimit` consecutive absent accounts.

* `findNextFreeSeed_eq_ok` — the index picked is free and the lowest such.
* `seedScanLoop_eq_ok` — the batches are one scan over `0 … seedMax`.
* `scanBatch_range'` — the step-by-step invariant of that scan.
* `seedScan_eq_ok` — **what the scan returns**: the stake accounts at reachable indices, in order.
-/

namespace GuardianStake.Solana

open Sdk Found

/-! ## The writer -/

/-- The result of `findNextFreeSeed`. -/
structure FreeSeed where
  index : ℕ
  seed : String
  stakeAddress : String
  deriving DecidableEq, Repr

/-- The addresses of a list of seed indices. -/
def deriveAll (kit : SolanaKit) (authority : String) (indices : List ℕ) : Result (List String) :=
  indices.mapM fun i => deriveStakeAddress kit authority (seedString i)

/-- Source: `tx/tx-builder.ts`, `findNextFreeSeed`. -/
def findNextFreeSeed (kit : SolanaKit) (rpc : SolanaRpcClient) (authorityAddress : String)
    (seedScanMax : ℤ) : Result FreeSeed := do
  if seedScanMax < 0 then
    throw (.validation .invalidAmount "seedScanMax must be a non-negative integer.")
  let addresses ← deriveAll kit authorityAddress (List.range (seedScanMax.toNat + 1))
  let accounts ← rpc.getMultipleAccounts addresses
  match accounts.findIdx? Option.isNone with
  | some i => .ok { index := i, seed := seedString i, stakeAddress := addresses.getD i "" }
  | none =>
      .error (.validation .unsupportedOperation
        (s!"No free stake seed found within 0..{seedScanMax}. Increase seedScanMax or close "
          ++ "unused stake accounts."))

/-! ## The reader -/

/-- Source: `services/load-positions.ts`, `SEED_SCAN_BATCH`. -/
def seedScanBatch : ℕ := 50

/-- Source: `services/load-positions.ts`, `ScannedAccount`. -/
structure ScannedAccount where
  account : SolanaAccountInfo
  seedIndex : Option ℕ
  deriving DecidableEq, Repr

/-- The variables of the scan. -/
structure ScanState where
  found : JsMap String ScannedAccount
  consecutiveEmpty : ℕ

/-- The inner loop of `seedScan` over the indices of a batch and their accounts, with `stop`. -/
def scanBatch (gapLimit : ℤ) : ScanState → List (ℕ × Option SolanaAccountInfo) → ScanState × Bool
  | s, [] => (s, false)
  | s, (_, none) :: rest =>
      let s := { s with consecutiveEmpty := s.consecutiveEmpty + 1 }
      if gapLimit ≤ s.consecutiveEmpty then (s, true) else scanBatch gapLimit s rest
  | s, (seedIndex, some info) :: rest =>
      let s := { s with consecutiveEmpty := 0 }
      if info.owner ≠ stakeProgramAddress then scanBatch gapLimit s rest
      else
        let found := s.found.set info.address { account := info, seedIndex := some seedIndex }
        scanBatch gapLimit { s with found } rest

/-- The `indices` of the batch that starts at `start`. -/
def batchIndices (seedMax : ℤ) (start : ℕ) : List ℕ :=
  let stop := min (start + seedScanBatch - 1 : ℤ) seedMax
  List.range' start (stop + 1 - start).toNat

/-- The values `start` takes in the outer loop of `seedScan`. -/
def batchStarts (seedMax : ℤ) : List ℕ :=
  List.range' 0 (seedMax / seedScanBatch + 1).toNat seedScanBatch

section seedScan

variable (kit : SolanaKit) (rpc : SolanaRpcClient) (authority : String) (seedMax gapLimit : ℤ)

/-- The outer loop of `seedScan` over the remaining values of `start`. -/
def seedScanLoop : ScanState → List ℕ → Result ScanState
  | s, [] => .ok s
  | s, start :: starts => do
      let indices := batchIndices seedMax start
      let addresses ← deriveAll kit authority indices
      let accounts ← rpc.getMultipleAccounts addresses
      let pairs := indices.zipIdx.map fun (i, j) => (i, accounts.getD j none)
      let (s, stop) := scanBatch gapLimit s pairs
      if stop then return s else seedScanLoop s starts

/-- Source: `services/load-positions.ts`, `seedScan`. -/
def seedScan : Result (JsMap String ScannedAccount) := do
  let s ← seedScanLoop kit rpc authority seedMax gapLimit
    { found := JsMap.empty, consecutiveEmpty := 0 } (batchStarts seedMax)
  return s.found

end seedScan

/-! ## What they do -/

section spec

variable {kit : SolanaKit} {rpc : SolanaRpcClient} {authority : String} {seedMax gapLimit : ℤ}
  {accounts : String → Option SolanaAccountInfo} {addr : ℕ → String} {max : ℕ}

/-- The addresses of indices in range. -/
theorem deriveAll_eq_ok (haddr : SeedAddresses kit authority max addr) {indices : List ℕ}
    (h : ∀ i ∈ indices, i ≤ max) : deriveAll kit authority indices = .ok (indices.map addr) := by
  unfold deriveAll
  induction indices with
  | nil => rfl
  | cons i indices ih =>
      obtain ⟨hi, hindices⟩ := List.forall_mem_cons.mp h
      rw [List.mapM_cons, haddr.derive i hi]
      simp only [bind, Except.bind, ih hindices]
      rfl

/-- The account of each index stands next to it. -/
theorem pairs_eq (indices : List ℕ) :
    (indices.zipIdx.map fun (i, j) =>
      (i, ((indices.map addr).map accounts).getD j none)) =
      indices.map fun i => (i, accounts (addr i)) := by
  apply List.ext_getElem (by simp)
  intro n h₁ h₂
  have hn : n < indices.length := by simpa using h₂
  simp [List.getD_eq_getElem?_getD, hn]

/-- The seed indices up to `max` with an account. -/
def occupied (accounts : String → Option SolanaAccountInfo) (addr : ℕ → String) (max : ℕ) : Set ℕ :=
  {i | i ≤ max ∧ accounts (addr i) ≠ none}

/-- The entry of a seed index: its account, if the stake program owns it. -/
def scannedEntry (accounts : String → Option SolanaAccountInfo) (addr : ℕ → String) (i : ℕ) :
    Option (String × ScannedAccount) :=
  (accounts (addr i)).bind fun info =>
    if info.owner = stakeProgramAddress then
      some (addr i, { account := info, seedIndex := some i })
    else none

/-- **What `findNextFreeSeed` returns**: the lowest index without an account. -/
theorem findNextFreeSeed_eq_ok (hrpc : ReadsAccounts rpc accounts)
    (haddr : SeedAddresses kit authority seedMax.toNat addr) {r : FreeSeed}
    (h : findNextFreeSeed kit rpc authority seedMax = .ok r) :
    r.index ≤ seedMax.toNat ∧ r.stakeAddress = addr r.index ∧
      r.index ∉ occupied accounts addr seedMax.toNat ∧
      ∀ j < r.index, j ∈ occupied accounts addr seedMax.toNat := by
  unfold findNextFreeSeed at h
  obtain ⟨-, h⟩ := guard_eq_ok.mp h
  rw [deriveAll_eq_ok haddr fun i hi => by simpa [Nat.lt_succ_iff] using hi] at h
  obtain ⟨addresses, haddresses, h⟩ := bind_eq_ok.mp h
  obtain rfl := Except.ok.inj haddresses
  rw [hrpc.getMultipleAccounts] at h
  obtain ⟨read, hread, h⟩ := bind_eq_ok.mp h
  obtain rfl := Except.ok.inj hread
  split at h
  case h_2 => cases h
  case h_1 i hi =>
    obtain rfl := Except.ok.inj h
    obtain ⟨hlt, hnone, hbelow⟩ := List.findIdx?_eq_some_iff_getElem.mp hi
    simp only [List.length_map, List.length_range] at hlt
    refine ⟨by simpa [Nat.lt_succ_iff] using hlt, by simp [hlt], ?_, fun j hj => ?_⟩
    · intro hmem
      exact hmem.2 (by simpa using hnone)
    · have hji : j < i := hj
      refine ⟨by omega, ?_⟩
      simpa [Option.isNone_iff_eq_none] using hbelow j hj

/-! ### What is found -/

/-- The entry of an account that is read for a seed index. -/
def readEntry (i : ℕ) (info : SolanaAccountInfo) : String × ScannedAccount :=
  (info.address, { account := info, seedIndex := some i })

/-- A batch finds accounts of the batch that the stake program owns, and nothing else. -/
theorem scanBatch_forall {P : String × ScannedAccount → Prop} {s : ScanState}
    (pairs : List (ℕ × Option SolanaAccountInfo))
    (hpairs : ∀ i info, (i, some info) ∈ pairs → info.owner = stakeProgramAddress →
      P (readEntry i info))
    (hs : ∀ e ∈ s.found.entries, P e) :
    ∀ e ∈ (scanBatch gapLimit s pairs).1.found.entries, P e := by
  induction pairs generalizing s with
  | nil => exact hs
  | cons p pairs ih =>
      obtain ⟨i, info⟩ := p
      have htail : ∀ i info, (i, some info) ∈ pairs → info.owner = stakeProgramAddress →
          P (readEntry i info) :=
        fun i info h => hpairs i info (List.mem_cons_of_mem _ h)
      cases info with
      | none =>
          simp only [scanBatch]
          split
          · exact hs
          · exact ih htail hs
      | some info =>
          simp only [scanBatch]
          split
          · exact ih htail hs
          · next howner =>
              refine ih htail fun e he => ?_
              rcases JsMap.mem_entries_set he with rfl | he
              · exact hpairs i info List.mem_cons_self (not_not.mp howner)
              · exact hs e he

/-- So do all batches, whatever is read for them. -/
theorem seedScanLoop_forall {P : String × ScannedAccount → Prop}
    (hread : ∀ addresses read, rpc.getMultipleAccounts addresses = .ok read →
      ∀ info, some info ∈ read → info.owner = stakeProgramAddress → ∀ i, P (readEntry i info))
    {starts : List ℕ} {s s' : ScanState} (hs : ∀ e ∈ s.found.entries, P e)
    (h : seedScanLoop kit rpc authority seedMax gapLimit s starts = .ok s') :
    ∀ e ∈ s'.found.entries, P e := by
  induction starts generalizing s with
  | nil =>
      obtain rfl := Except.ok.inj h
      exact hs
  | cons start starts ih =>
      obtain ⟨addresses, -, h⟩ := bind_eq_ok.mp h
      obtain ⟨read, hanswer, h⟩ := bind_eq_ok.mp h
      have hbatch := @scanBatch_forall gapLimit P s
        ((batchIndices seedMax start).zipIdx.map fun p => (p.1, read.getD p.2 none)) ?_ hs
      · simp only at h
        split at h
        · obtain rfl := Except.ok.inj h
          exact hbatch
        · exact ih hbatch h
      · intro i info hinfo howner
        obtain ⟨⟨k, j⟩, -, hkj⟩ := List.mem_map.mp hinfo
        have hget : (read[j]?).getD none = some info := by
          rw [← List.getD_eq_getElem?_getD]
          exact (Prod.mk.inj hkj).2
        have hmem : some info ∈ read := by
          cases hj : read[j]? with
          | none => simp [hj] at hget
          | some account =>
              rw [hj, Option.getD_some] at hget
              exact hget ▸ List.mem_of_getElem? hj
        exact hread addresses read hanswer info hmem howner i

/-- **Whatever holds of the stake-program accounts that are read holds of those the scan
returns.** -/
theorem seedScan_forall {P : String × ScannedAccount → Prop}
    (hread : ∀ addresses read, rpc.getMultipleAccounts addresses = .ok read →
      ∀ info, some info ∈ read → info.owner = stakeProgramAddress → ∀ i, P (readEntry i info))
    {found : JsMap String ScannedAccount}
    (h : seedScan kit rpc authority seedMax gapLimit = .ok found) : ∀ e ∈ found.entries, P e := by
  obtain ⟨s, hloop, h⟩ := bind_eq_ok.mp h
  obtain rfl := Except.ok.inj h
  exact seedScanLoop_forall hread (by simp [JsMap.empty]) hloop

/-! ### Where it stops -/

/-- Scanning on from where a scan did not stop. -/
theorem scanBatch_append (s : ScanState) (l₁ l₂ : List (ℕ × Option SolanaAccountInfo)) :
    scanBatch gapLimit s (l₁ ++ l₂) =
      if (scanBatch gapLimit s l₁).2 then scanBatch gapLimit s l₁
      else scanBatch gapLimit (scanBatch gapLimit s l₁).1 l₂ := by
  induction l₁ generalizing s with
  | nil => simp [scanBatch]
  | cons p l₁ ih =>
      obtain ⟨i, info⟩ := p
      cases info with
      | none =>
          simp only [List.cons_append, scanBatch]
          split
          · simp
          · exact ih _
      | some info =>
          simp only [List.cons_append, scanBatch]
          split <;> exact ih _

/-- The batches are one scan over all their indices. -/
theorem seedScanLoop_eq_ok (gapLimit : ℤ) (starts : List ℕ) (hrpc : ReadsAccounts rpc accounts)
    (haddr : SeedAddresses kit authority max addr)
    (h : ∀ start ∈ starts, ∀ i ∈ batchIndices seedMax start, i ≤ max) (s : ScanState) :
    seedScanLoop kit rpc authority seedMax gapLimit s starts =
      .ok (scanBatch gapLimit s ((starts.flatMap (batchIndices seedMax)).map fun i =>
        (i, accounts (addr i)))).1 := by
  induction starts generalizing s with
  | nil => rfl
  | cons start starts ih =>
      obtain ⟨hstart, hstarts⟩ := List.forall_mem_cons.mp h
      rw [seedScanLoop, deriveAll_eq_ok haddr hstart, List.flatMap_cons, List.map_append,
        scanBatch_append]
      simp only [bind, Except.bind, hrpc.getMultipleAccounts, pairs_eq]
      split
      · rfl
      · exact ih hstarts _

/-- A batch in natural numbers. -/
theorem batchIndices_eq (hmax : 0 ≤ seedMax) (start : ℕ) :
    batchIndices seedMax start =
      List.range' start (min seedScanBatch (seedMax.toNat + 1 - start)) := by
  have hlen : (min (start + seedScanBatch - 1 : ℤ) seedMax + 1 - start).toNat =
      min seedScanBatch (seedMax.toNat + 1 - start) := by
    unfold seedScanBatch
    omega
  rw [batchIndices, hlen]

/-- The batches that start below `n` batch lengths hold the indices below that. -/
theorem flatMap_batchIndices (hmax : 0 ≤ seedMax) (n : ℕ) :
    (List.range' 0 n seedScanBatch).flatMap (batchIndices seedMax) =
      List.range (min (seedScanBatch * n) (seedMax.toNat + 1)) := by
  induction n with
  | zero => simp
  | succ n ih =>
      rw [List.range'_concat, List.flatMap_append, ih, List.flatMap_singleton, zero_add,
        batchIndices_eq hmax, List.range_eq_range', List.range_eq_range', Nat.mul_succ]
      rcases le_or_gt (seedScanBatch * n) (seedMax.toNat + 1) with hle | hlt
      · have happend := List.range'_append_1 (s := 0) (m := seedScanBatch * n)
          (n := min seedScanBatch (seedMax.toNat + 1 - seedScanBatch * n))
        rw [zero_add] at happend
        rw [min_eq_left hle, happend]
        congr 1
        omega
      · rw [min_eq_right hlt.le, show seedMax.toNat + 1 - seedScanBatch * n = 0 by omega]
        simp only [Nat.min_zero, List.range'_zero, List.append_nil]
        congr 1
        omega

/-- All batches together are `0 … seedMax`. -/
theorem flatMap_batchStarts (hmax : 0 ≤ seedMax) :
    (batchStarts seedMax).flatMap (batchIndices seedMax) = List.range (seedMax.toNat + 1) := by
  rw [batchStarts, flatMap_batchIndices hmax, min_eq_right]
  unfold seedScanBatch
  omega

/-- No batch goes beyond `seedMax`. -/
theorem le_of_mem_batchIndices (hmax : 0 ≤ seedMax) {start i : ℕ}
    (h : i ∈ batchIndices seedMax start) : i ≤ seedMax.toNat := by
  rw [batchIndices_eq hmax, List.mem_range'_1] at h
  omega

open Classical in
/-- **The invariant of the scan**: the counter counts the trailing absences, and as long as it is
below the limit the next index is reachable; from there on the scan adds the entries of the
reachable indices. -/
theorem scanBatch_range' (hrpc : ReadsAccounts rpc accounts)
    (haddr : SeedAddresses kit authority max addr) {len n : ℕ} (hlen : n + len ≤ max + 1)
    {s : ScanState} (htrailing : TrailingMisses (occupied accounts addr max) n s.consecutiveEmpty)
    (hlimit : s.consecutiveEmpty < gapLimit)
    (hreach : Reachable gapLimit.toNat (occupied accounts addr max) n)
    (hkeys : ∀ key ∈ s.found.entries.map Prod.fst, ∃ i < n, key = addr i) :
    (scanBatch gapLimit s ((List.range' n len).map fun i => (i, accounts (addr i)))).1.found.entries
      = s.found.entries ++
        ((List.range' n len).filter fun i =>
          Reachable gapLimit.toNat (occupied accounts addr max) i).filterMap
            (scannedEntry accounts addr) := by
  induction len generalizing n s with
  | zero => simp [scanBatch]
  | succ len ih =>
      rw [List.range'_succ, List.map_cons, List.filter_cons_of_pos (by simpa using hreach),
        List.filterMap_cons]
      have hkeys' : ∀ key ∈ s.found.entries.map Prod.fst, ∃ i < n + 1, key = addr i := by
        intro key hkey
        obtain ⟨i, hi, rfl⟩ := hkeys key hkey
        exact ⟨i, by omega, rfl⟩
      cases hinfo : accounts (addr n) with
      | none =>
          have hmiss := htrailing.succ fun hmem => hmem.2 hinfo
          have hentry : scannedEntry accounts addr n = none := by simp [scannedEntry, hinfo]
          simp only [scanBatch, hentry]
          split
          case isTrue hstop =>
            -- the scan stops, and no later index is reachable
            have hnone : (List.range' (n + 1) len).filter (fun i =>
                Reachable gapLimit.toNat (occupied accounts addr max) i) = [] := by
              apply List.filter_eq_nil_iff.mpr
              intro i hi
              have hle := (List.mem_range'_1.mp hi).1
              simpa using hmiss.not_reachable (by omega) hle
            simp [hnone]
          case isFalse hgo =>
            have hnext := hmiss.reachable (by omega) hreach
            exact ih (by omega) hmiss (not_le.mp hgo) hnext hkeys'
      | some info =>
          have hmem := trailingMisses_of_mem
            (show n ∈ occupied accounts addr max from ⟨by omega, by simp [hinfo]⟩)
          have hnext := hmem.reachable (g := gapLimit.toNat) (by omega) hreach
          simp only [scanBatch]
          by_cases howner : info.owner = stakeProgramAddress
          · have hentry : scannedEntry accounts addr n =
                some (addr n, { account := info, seedIndex := some n }) := by
              simp [scannedEntry, hinfo, howner]
            -- no earlier index has this address
            have hfresh : info.address ∉ s.found.entries.map Prod.fst := by
              intro hkey
              obtain ⟨i, hi, heq⟩ := hkeys _ hkey
              rw [hrpc.address_eq hinfo] at heq
              have := haddr.injOn n (by omega) i (by omega) heq
              omega
            have hentries := JsMap.entries_set_of_notMem hfresh
              ({ account := info, seedIndex := some n } : ScannedAccount)
            rw [if_neg (not_not.mpr howner), hentry, ih (by omega) hmem (by simp; omega) hnext ?_,
              hentries, hrpc.address_eq hinfo, List.append_assoc, List.singleton_append]
            intro key hkey
            simp only [hentries, List.map_append, List.mem_append, List.map_cons, List.map_nil,
              List.mem_singleton] at hkey
            rcases hkey with hkey | rfl
            · exact hkeys' key hkey
            · exact ⟨n, by omega, hrpc.address_eq hinfo⟩
          · have hentry : scannedEntry accounts addr n = none := by
              simp [scannedEntry, hinfo, howner]
            rw [if_pos howner, hentry]
            exact ih (by omega) hmem (by simp; omega) hnext hkeys'

open Classical in
/-- **What the scan returns**: the stake accounts at the reachable indices up to `seedMax`, each
with its index, in order. -/
theorem seedScan_eq_ok (hrpc : ReadsAccounts rpc accounts)
    (haddr : SeedAddresses kit authority seedMax.toNat addr) (hmax : 0 ≤ seedMax)
    (hgap : 1 ≤ gapLimit) :
    ∃ found, seedScan kit rpc authority seedMax gapLimit = .ok found ∧
      found.entries = ((List.range (seedMax.toNat + 1)).filter fun i =>
        Reachable gapLimit.toNat (occupied accounts addr seedMax.toNat) i).filterMap
          (scannedEntry accounts addr) := by
  have hloop := seedScanLoop_eq_ok gapLimit (batchStarts seedMax) hrpc haddr
    (fun _ _ _ hi => le_of_mem_batchIndices hmax hi)
    { found := JsMap.empty, consecutiveEmpty := 0 }
  rw [flatMap_batchStarts hmax, List.range_eq_range'] at hloop
  refine ⟨_, by rw [seedScan, hloop]; rfl, ?_⟩
  rw [scanBatch_range' hrpc haddr (by omega) trailingMisses_zero (by simp; omega)
    (reachable_of_lt (by omega)) (by simp [JsMap.empty]), List.range_eq_range']
  rfl

end spec

end GuardianStake.Solana
