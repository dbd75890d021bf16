import GuardianStake.Found.Transition
import GuardianStake.Solana.SeedScan

/-!
# Discovery over whole runs

Stake accounts of one authority come and go: a Delegate creates one at the seed that
`findNextFreeSeed` picks, an Undelegate changes one, a ClaimDelegate withdraws one in full, which
closes it. `seedScan` must find what is there.

* `PositionStep` — one step of the accounts.
* `findsAll_iff_gapless` — the scan finds every account iff no gap lies below one.
* `PositionStep.gapless_iff` — delegating never opens a gap; claiming does when it removes the only
  account of `gapLimit` consecutive seeds with another account above them.
* `run_findsAll_iff` — **over a run**, the scan finds every account in every state reached iff no
  claim of the run does that.
-/

namespace GuardianStake.Solana

open Sdk Found

/-- The accounts of the chain, by address. -/
abbrev Accounts := String → Option SolanaAccountInfo

/-- What happens to the stake accounts of an authority; a claim names the seed index. -/
inductive PositionAction
  | delegate
  | undelegate
  | claimDelegate (index : ℕ)
  deriving DecidableEq, Repr

section runs

variable (kit : SolanaKit) (authority : String) (addr : ℕ → String) (seedMax gapLimit : ℤ)

/-- One step of the accounts. -/
inductive PositionStep : Accounts → PositionAction → Accounts → Prop
  | delegate {s : Accounts} {rpc : SolanaRpcClient} {r : FreeSeed} {account : SolanaAccountInfo}
      (hrpc : ReadsAccounts rpc s)
      (hseed : findNextFreeSeed kit rpc authority seedMax = .ok r)
      (howner : account.owner = stakeProgramAddress) (haddress : account.address = r.stakeAddress) :
      PositionStep s .delegate (Function.update s r.stakeAddress (some account))
  | undelegate {s : Accounts} {i : ℕ} {account : SolanaAccountInfo}
      (hi : i ∈ occupied s addr seedMax.toNat)
      (howner : account.owner = stakeProgramAddress) (haddress : account.address = addr i) :
      PositionStep s .undelegate (Function.update s (addr i) (some account))
  | claimDelegate {s : Accounts} {i : ℕ} (hi : i ∈ occupied s addr seedMax.toNat) :
      PositionStep s (.claimDelegate i) (Function.update s (addr i) none)

/-- What holds of the accounts throughout: they carry their address, and the stake program owns
those at the seeds. -/
structure StakeAccounts (s : Accounts) : Prop where
  address_eq : ∀ {address info}, s address = some info → info.address = address
  owner_eq : ∀ i ≤ seedMax.toNat, ∀ info, s (addr i) = some info → info.owner = stakeProgramAddress

/-- The scan finds every account at the seeds, with its index. -/
def FindsAll (s : Accounts) : Prop :=
  ∀ rpc, ReadsAccounts rpc s →
    ∃ found, seedScan kit rpc authority seedMax gapLimit = .ok found ∧
      ∀ i ≤ seedMax.toNat, ∀ info, s (addr i) = some info →
        { account := info, seedIndex := some i } ∈ found.values

/-- A claim is not one of the only account among `gapLimit` consecutive seeds below another
account. -/
def KeepsReach (s : Accounts) : PositionAction → Prop
  | .claimDelegate i => ¬KeepsAbove gapLimit.toNat (occupied s addr seedMax.toNat) i
  | _ => True

end runs

/-- An RPC over a state of the accounts. -/
def rpcOf (s : Accounts) : SolanaRpcClient where
  getBalance := fun _ => .ok 0
  getStakeMinimumDelegation := .ok 1000000000
  getMinimumBalanceForRentExemption := fun _ => .ok 2282880
  getLatestBlockhash := .ok ⟨"EETubP5AKHgjPAhzPAFcb8BAY1hMH639CWCFTqi3hq1k", 1⟩
  getMultipleAccounts := fun addresses => .ok (addresses.map s)
  getProgramAccountsStakeByStaker := fun _ => .ok []
  getStakeHistory := .ok []
  getClock := .ok ⟨0, 0⟩
  getClockEpoch := .ok 0

section step

variable {kit : SolanaKit} {authority : String} {addr : ℕ → String} {seedMax gapLimit : ℤ}
  {s t : Accounts} {a : PositionAction}

open Classical in
/-- An account at a seed is among what the scan returns iff its index is reachable. -/
theorem mem_values_iff_reachable (hs : StakeAccounts addr seedMax s)
    {found : JsMap String ScannedAccount}
    (hfound : found.entries = ((List.range (seedMax.toNat + 1)).filter fun i =>
      Reachable gapLimit.toNat (occupied s addr seedMax.toNat) i).filterMap (scannedEntry s addr))
    {i : ℕ} (hi : i ≤ seedMax.toNat) {info : SolanaAccountInfo} (hinfo : s (addr i) = some info) :
    { account := info, seedIndex := some i } ∈ found.values ↔
      Reachable gapLimit.toNat (occupied s addr seedMax.toNat) i := by
  have howner := hs.owner_eq i hi info hinfo
  rw [JsMap.values, hfound, List.mem_map]
  constructor
  · rintro ⟨e, he, hei⟩
    obtain ⟨j, hj, hje⟩ := List.mem_filterMap.mp he
    obtain ⟨-, hreach⟩ := List.mem_filter.mp hj
    obtain ⟨read, -, hread⟩ := Option.bind_eq_some_iff.mp hje
    split at hread
    · obtain rfl := Option.some.inj hread
      obtain rfl : j = i := by simpa using congrArg ScannedAccount.seedIndex hei
      simpa using hreach
    · cases hread
  · intro hreach
    refine ⟨(addr i, _), List.mem_filterMap.mpr ⟨i, List.mem_filter.mpr ⟨?_, ?_⟩, ?_⟩, rfl⟩
    · exact List.mem_range.mpr (by omega)
    · simpa using hreach
    · simp [scannedEntry, hinfo, howner]

/-- **The scan finds every account iff no gap lies below one.** -/
theorem findsAll_iff_gapless (haddr : SeedAddresses kit authority seedMax.toNat addr)
    (hmax : 0 ≤ seedMax) (hgap : 1 ≤ gapLimit) (hs : StakeAccounts addr seedMax s) :
    FindsAll kit authority addr seedMax gapLimit s ↔
      Gapless gapLimit.toNat (occupied s addr seedMax.toNat) := by
  constructor
  · rintro hfinds i ⟨hi, hne⟩
    have hrpc : ReadsAccounts (rpcOf s) s := ⟨fun _ => rfl, hs.address_eq⟩
    obtain ⟨found, hfound, hall⟩ := hfinds _ hrpc
    obtain ⟨found', hfound', hspec⟩ := seedScan_eq_ok hrpc haddr hmax hgap
    obtain rfl := Except.ok.inj (hfound.symm.trans hfound')
    obtain ⟨info, hinfo⟩ := Option.ne_none_iff_exists'.mp hne
    exact (mem_values_iff_reachable hs hspec hi hinfo).mp (hall i hi info hinfo)
  · intro hgapless rpc hrpc
    obtain ⟨found, hfound, hspec⟩ := seedScan_eq_ok hrpc haddr hmax hgap
    exact ⟨found, hfound, fun i hi info hinfo =>
      (mem_values_iff_reachable hs hspec hi hinfo).mpr (hgapless i ⟨hi, by simp [hinfo]⟩)⟩

/-- Seeds within the bound have one address only if they are one. -/
theorem SeedAddresses.eq_iff {max i j : ℕ} (haddr : SeedAddresses kit authority max addr)
    (hi : i ≤ max) (hj : j ≤ max) : addr i = addr j ↔ i = j :=
  ⟨haddr.injOn i hi j hj, congrArg addr⟩

/-- An account created at a seed occupies its index. -/
theorem occupied_update_some (haddr : SeedAddresses kit authority seedMax.toNat addr) {i : ℕ}
    (hi : i ≤ seedMax.toNat) (account : SolanaAccountInfo) :
    occupied (Function.update s (addr i) (some account)) addr seedMax.toNat =
      insert i (occupied s addr seedMax.toNat) := by
  ext j
  simp only [occupied, Set.mem_ofPred_eq, Set.mem_insert_iff, Function.update_apply]
  by_cases hj : j ≤ seedMax.toNat
  · simp only [haddr.eq_iff hj hi]
    split <;> simp_all
  · have hne : j ≠ i := by omega
    simp [hj, hne]

/-- An account closed at a seed frees its index. -/
theorem occupied_update_none (haddr : SeedAddresses kit authority seedMax.toNat addr) {i : ℕ}
    (hi : i ≤ seedMax.toNat) :
    occupied (Function.update s (addr i) none) addr seedMax.toNat =
      occupied s addr seedMax.toNat \ {i} := by
  ext j
  simp only [occupied, Set.mem_ofPred_eq, Set.mem_sdiff, Set.mem_singleton_iff,
    Function.update_apply]
  by_cases hj : j ≤ seedMax.toNat
  · simp only [haddr.eq_iff hj hi]
    split <;> simp_all
  · simp [hj]

/-- An account written at a seed leaves the accounts as they should be. -/
theorem StakeAccounts.update_some (hs : StakeAccounts addr seedMax s) {i : ℕ}
    {account : SolanaAccountInfo} (howner : account.owner = stakeProgramAddress)
    (haddress : account.address = addr i) :
    StakeAccounts addr seedMax (Function.update s (addr i) (some account)) := by
  refine ⟨fun {address info} h => ?_, fun j hj info h => ?_⟩
  all_goals rw [Function.update_apply] at h; split at h
  · obtain rfl := Option.some.inj h
    exact haddress.trans (Eq.symm ‹_›)
  · exact hs.address_eq h
  · obtain rfl := Option.some.inj h
    exact howner
  · exact hs.owner_eq j hj info h

/-- An account closed leaves the others as they should be. -/
theorem StakeAccounts.update_none (hs : StakeAccounts addr seedMax s) (address : String) :
    StakeAccounts addr seedMax (Function.update s address none) := by
  refine ⟨fun {address info} h => ?_, fun j hj info h => ?_⟩
  all_goals rw [Function.update_apply] at h; split at h
  · cases h
  · exact hs.address_eq h
  · cases h
  · exact hs.owner_eq j hj info h

/-- A step leaves the accounts as they should be. -/
theorem PositionStep.stakeAccounts (haddr : SeedAddresses kit authority seedMax.toNat addr)
    (hs : StakeAccounts addr seedMax s) (h : PositionStep kit authority addr seedMax s a t) :
    StakeAccounts addr seedMax t := by
  cases h with
  | delegate hrpc hseed howner haddress =>
      obtain ⟨-, hat, -, -⟩ := findNextFreeSeed_eq_ok hrpc haddr hseed
      rw [hat] at haddress ⊢
      exact hs.update_some howner haddress
  | undelegate _ howner haddress => exact hs.update_some howner haddress
  | claimDelegate _ => exact hs.update_none _

/-- The step lemma: **a step from gapless seeds opens a gap only by a claim** of the only account
among `gapLimit` consecutive seeds below another one. -/
theorem PositionStep.gapless_iff (haddr : SeedAddresses kit authority seedMax.toNat addr)
    (hgap : 1 ≤ gapLimit) (hgapless : Gapless gapLimit.toNat (occupied s addr seedMax.toNat))
    (h : PositionStep kit authority addr seedMax s a t) :
    Gapless gapLimit.toNat (occupied t addr seedMax.toNat) ↔
      KeepsReach addr seedMax gapLimit s a := by
  cases h with
  | delegate hrpc hseed _ _ =>
      obtain ⟨hle, hat, -, hbelow⟩ := findNextFreeSeed_eq_ok hrpc haddr hseed
      rw [hat, occupied_update_some haddr hle]
      exact iff_of_true (hgapless.insert_of_lowest (by omega) hbelow) trivial
  | undelegate hi _ _ =>
      rw [occupied_update_some haddr hi.1, Set.insert_eq_of_mem hi]
      exact iff_of_true hgapless trivial
  | claimDelegate hi =>
      rw [occupied_update_none haddr hi.1]
      exact hgapless.erase_iff

/-- **Discovery over a run.** From a chain without accounts at the seeds of an authority, the scan
finds every account in every state a run reaches iff every claim of the run is taken from a state
where it is not the only account among `gapLimit` consecutive seeds below another one. -/
theorem run_findsAll_iff (haddr : SeedAddresses kit authority seedMax.toNat addr)
    (hmax : 0 ≤ seedMax) (hgap : 1 ≤ gapLimit)
    (haddress : ∀ {address info}, s address = some info → info.address = address)
    (hempty : ∀ i ≤ seedMax.toNat, s (addr i) = none) {l : List (PositionAction × Accounts)}
    (hrun : Run (PositionStep kit authority addr seedMax) s l) :
    (∀ p ∈ l, FindsAll kit authority addr seedMax gapLimit p.2) ↔
      Guarded (KeepsReach addr seedMax gapLimit) s l := by
  have hs : StakeAccounts addr seedMax s :=
    ⟨haddress, fun i hi info hinfo => by simp [hempty i hi] at hinfo⟩
  have hnone : occupied s addr seedMax.toNat = ∅ :=
    Set.eq_empty_of_forall_notMem fun i hi => hi.2 (hempty i hi.1)
  have haccounts : ∀ p ∈ l, StakeAccounts addr seedMax p.2 :=
    hrun.invariant (fun s a t hs h => PositionStep.stakeAccounts haddr hs h) hs
  rw [← hrun.forall_iff_guarded (P := fun s => StakeAccounts addr seedMax s ∧
    Gapless gapLimit.toNat (occupied s addr seedMax.toNat))]
  · exact forall₂_congr fun p hp => by
      rw [findsAll_iff_gapless haddr hmax hgap (haccounts p hp)]
      exact (and_iff_right (haccounts p hp)).symm
  · rintro s a t ⟨hs, hgapless⟩ h
    rw [and_iff_right (h.stakeAccounts haddr hs), h.gapless_iff haddr hgap hgapless]
  · exact ⟨hs, hnone ▸ gapless_empty⟩

end step

/-! ### Five holes below an account -/

/-- A wallet. -/
def wallet : String := "So11111111111111111111111111111111111111112"

/-- Its stake addresses at the seeds `"0"`, …, `"50"`. -/
def walletAddresses : List String := [
    "3xqN5C8yRt8dBZ9mHxzzfym5nvKtfgQQffFcpuAYBkvB", "XTm7MUmSVCTxMnSTEWs3o2o1LeUb61b7fkP7eivw49z",
    "4sD6oHvDAv5SRvzLFJVKNgfP3SXT8bXq5ahNsVQ711j2", "4rf5ij24cJY8cqF6PcrVsJjZChnsnz9dSSY9N7CdFoiz",
    "An17KbqLK42Q6zAi6hyH22WT42BUqBz9RTigWHxJ3WtM", "Dsp7CNyUrQii4e8i4USkaosQi4vKm1WeZm5CRGP7ncwh",
    "7UvD892U4SqnpuBPFcJcPSxn6kmAFGj4H3QhZVZzprPw", "2c6cnoqikyCTPJkS3KDp1P36mYEM5XpZALE6fQPLbDfx",
    "DQTfjse9aKGW52wHhEPSCMtK4gHbCFAoRfhn1epbLJnT", "8mPX1aweug7U5VEcVNXBrfBG1ovxQvgJSeJyfbasHNkn",
    "8NWyrpKHfj8BCNV9LX9Ffmu2fbtfsFeBnoRih1NGeoVk", "8pp9CgRhvn9xNRtJxtKdjHkN87vgSxWR43FuP1KTGSHV",
    "HcwK6BLScmzQXJBhhoEwmcqJPd8pDQcFR8BULEVhY3Df", "4JDFLBUbeDduBur8f9Q5gFoxSDCXcSoXf6zzpdQQKRfZ",
    "FExGD69Zb3fCrqnbineHVRcm48LrZC1dghsY281SpEz5", "3ygfeYGPZTECfnVN9Gp5zND2qAz2cXtDPJZ2G7bokwtb",
    "FnqLVU2SaStrbXsWUxocHsLWhuff7aPD9LJczT5XaYwB", "EerCAsr8BPcMgBxReYQAZMFWXFk8LgMrXKVUBy4dhtSn",
    "G7CquoHv6cykbT5a7hDavn4EN7bDpM99JtyLwXhBZ7UL", "CTYoahKqwk8fLsxf9c7p37rritgvL7FKBdT6KWkFCHKh",
    "Drb8vFUDPqDxJMT7jemdrkBS56JtYiaMbE2UgAPZXHfg", "FUdQAUQNCmtMsfMozKjG3KUA7P9CBmmVXi7ggU5v1yvP",
    "4vr4d3vmr8dodSsAyEdTd7ARygkRe4mwJc9YcJ2b2Hnc", "8JcAkxTZL7aQEcpD3dgS99dUJcAvYMRc9t37UrxvaEQL",
    "DdaHS4YrDbBc9nQicpShxtqTUCBb8QKfa3pMqFsPA98o", "2VwfNaJeVEtBaFf7FYsVecV68jkboRvoL3oE4mHKHdzd",
    "GSag2v5JygbN4SqjwnFrEPDizQZMCCuUnLbeb45MRNxX", "5MHU5TBXbFNrHUzmnhRVfJRhbw1uDZM6hEHK27A612kf",
    "EB7XCGKaYhaX6jS8fz6BzS6MNN6ArErCQGvJJPEgeR4p", "8KUwSHTpnZNn6PQF4T2ddh5dLGWucCjpR18bQBqUmajY",
    "6p9K7p7ejHwpLSUqFUXUpSSpZUuDeK3MD2jsD3HvgfrF", "8C21BJdhJ5wH6BkZ5E8KS9PHMvm4hiFEebfX3qg7twqL",
    "1458AoC9cB178WPik7sdc6zssUGwJXj2kevozWy12fKU", "G9GHvDFCU2nmScNwquZ8zLBMWwGRnekTTyFFo4HwkWtG",
    "EN7Kso1tX1H2q8Vvn7Y5nd4JmT1ztdVyaqT4XGBe6Fqe", "9viGFaenn8jHBsHaKzs5R8gcoKJchXNT7eGkVkqAGhyw",
    "AiqQgJRx4BN53DkUT55jKrEyt4DpvXB4LvST5WgNcLPf", "BwBsZt6G9aimmcR2KC45QKM6wkxgZ8b8Th2LMKg9M9Yz",
    "CcobqgjYxgRvyRNx4dDMrgUHVNxcZbdeLawbXTcFUt3J", "i2q8o5LDr18C5VugXiQuETXMatusT5FQdoRiuUmhJ94",
    "6Z61Mi8jGng8FqiDugWNTpctniueBWtdCohz83ojFCqw", "4iBx6wzso4VamYp86o8ZQdE1hBQprqMmjZ464mnnAxGd",
    "8Ct1xM1Ea13PS6iCQnSGd44mKZNfSFvuBNDQVsNAKCDz", "8coMcvnjUSCiF5xrJnpwPR2i78Cf2iet6EmoXo5sAfDK",
    "4E8sF5v1wYQfBRhgCeYqDGu2TPa6Ek7fRuotr3e1meir", "479ybS3Hmz5LbxEySW5pPYDAs17YPsagnR9srxtCEX9S",
    "Fy7Dk6E8gV73YkZuqHw7k9gp49SZRiNw1EDTEDXSgRbR", "4RSNs3HEjUv4a92fLndoxY7nTDnz7Xnz71vuGbgi16RF",
    "JCkWTnN5hitkXuGzB3bfXzUVKNxodtD4eQykJ4zU5zSv", "5wA6ZAmANh3Z2PPyKeHJWvPLKedSLaixvKoiqWwRbfSu",
    "5EDP6sn7juY3obPWhRf7FsWJYNZH1r59vw9cuMYnVxtA"]

@[inherit_doc walletAddresses]
def walletAddress (i : ℕ) : String := walletAddresses.getD i ""

/-- Kit on that wallet. -/
def walletKit : SolanaKit where
  isAddress := fun address => address = wallet
  createAddressWithSeed := fun baseAddress programAddress seed =>
    match (List.range 51).find? fun i => seedString i = seed with
    | some i =>
        if baseAddress = wallet ∧ programAddress = stakeProgramAddress then .ok (walletAddress i)
        else .error (.foreign "no vector")
    | none => .error (.foreign "no vector")
  decode := fun _ => none

/-- An account at a seed of the wallet. -/
def walletAccount (i : ℕ) : SolanaAccountInfo :=
  { address := walletAddress i, lamports := 1002282880, data := [], owner := stakeProgramAddress }

/-- The seed an address of the wallet belongs to. -/
def walletIndex (address : String) : Option ℕ :=
  (List.range 51).find? fun i => walletAddress i = address

/-- The wallet with accounts at some seeds. -/
def walletAt (indices : Finset ℕ) : Accounts := fun address =>
  (walletIndex address).bind fun i => if i ∈ indices then some (walletAccount i) else none

/-- A step of the wallet. -/
abbrev WalletStep := PositionStep walletKit wallet walletAddress defaultSeedScanMax

theorem walletIndex_walletAddress : ∀ i ≤ 50, walletIndex (walletAddress i) = some i := by
  decide +kernel

theorem seedAddresses_wallet : SeedAddresses walletKit wallet defaultSeedScanMax.toNat
    walletAddress := by
  refine ⟨by decide +kernel, fun i hi j hj h => ?_⟩
  have hi' := walletIndex_walletAddress i hi
  have hj' := walletIndex_walletAddress j hj
  rw [h, hj'] at hi'
  exact (Option.some.inj hi').symm

/-- Writing at a seed of the wallet changes that seed only. -/
theorem update_walletAt (indices indices' : Finset ℕ) {i : ℕ} (hi : i ≤ 50)
    (h : ∀ j ≠ i, j ∈ indices ↔ j ∈ indices') :
    Function.update (walletAt indices) (walletAddress i)
      (if i ∈ indices' then some (walletAccount i) else none) = walletAt indices' := by
  funext address
  rw [Function.update_apply]
  split
  case isTrue haddress =>
    rw [haddress, walletAt, walletIndex_walletAddress i hi, Option.bind_some]
  case isFalse haddress =>
    unfold walletAt
    cases hj : walletIndex address with
    | none => rfl
    | some j =>
        have hat : walletAddress j = address := by simpa using List.find?_some hj
        have hne : j ≠ i := fun heq => haddress (by rw [← hat, heq])
        simp only [Option.bind_some, h j hne]

theorem stakeAccounts_walletAt (indices : Finset ℕ) :
    StakeAccounts walletAddress defaultSeedScanMax (walletAt indices) := by
  refine ⟨fun {address info} h => ?_, fun i _ info h => ?_⟩
  all_goals
    obtain ⟨j, hj, h⟩ := Option.bind_eq_some_iff.mp h
    split at h <;> [obtain rfl := Option.some.inj h; cases h]
  · simpa [walletAccount] using List.find?_some hj
  · rfl

/-- A Delegate of the wallet. -/
theorem walletStep_delegate {indices indices' : Finset ℕ} (i : ℕ) (hi : i ≤ 50)
    (h : findNextFreeSeed walletKit (rpcOf (walletAt indices)) wallet defaultSeedScanMax =
      .ok ⟨i, seedString i, walletAddress i⟩) (hindices : indices' = insert i indices) :
    WalletStep (walletAt indices) .delegate (walletAt indices') := by
  subst hindices
  have hupdate := update_walletAt indices (insert i indices) hi
    fun j hj => by simp [hj]
  rw [if_pos (Finset.mem_insert_self i indices)] at hupdate
  rw [← hupdate]
  exact .delegate (r := ⟨i, seedString i, walletAddress i⟩)
    ⟨fun _ => rfl, (stakeAccounts_walletAt indices).address_eq⟩ h rfl rfl

/-- A ClaimDelegate of the wallet. -/
theorem walletStep_claimDelegate {indices indices' : Finset ℕ} {i : ℕ} (hi : i ≤ 50)
    (hmem : i ∈ indices) (hindices : indices' = indices.erase i) :
    WalletStep (walletAt indices) (.claimDelegate i) (walletAt indices') := by
  subst hindices
  have hupdate := update_walletAt indices (indices.erase i) hi
    fun j hj => by simp [hj]
  rw [if_neg (Finset.notMem_erase i indices)] at hupdate
  rw [← hupdate]
  refine .claimDelegate ⟨hi, ?_⟩
  rw [walletAt, walletIndex_walletAddress i hi, Option.bind_some, if_pos hmem]
  exact Option.some_ne_none _

/-- Two Delegates in a row, and the scan finds both accounts. -/
theorem run_findsAll_wallet :
    FindsAll walletKit wallet walletAddress defaultSeedScanMax defaultSeedScanGapLimit
        (walletAt {0}) ∧
      FindsAll walletKit wallet walletAddress defaultSeedScanMax defaultSeedScanGapLimit
        (walletAt {1, 0}) := by
  have hgap : 1 ≤ defaultSeedScanGapLimit := by decide
  have hrun : Run WalletStep (walletAt ∅)
      [(.delegate, walletAt {0}), (.delegate, walletAt {1, 0})] := by
    refine .cons (walletStep_delegate 0 (by decide) (by decide +kernel) (by decide)) ?_
    exact .cons (walletStep_delegate 1 (by decide) (by decide +kernel) (by decide)) (.nil _)
  have hfinds := (run_findsAll_iff seedAddresses_wallet (by decide) hgap
    (stakeAccounts_walletAt ∅).address_eq (by decide +kernel) hrun).mpr
    ⟨trivial, trivial, trivial⟩
  exact ⟨hfinds _ List.mem_cons_self, hfinds _ (List.mem_cons_of_mem _ List.mem_cons_self)⟩

/-- **An account the scan misses**: after six Delegates and five claims of the oldest positions the
sixth account, at seed 5, is still there, and the scan of its owner returns nothing. -/
theorem seedScan_missesAccount :
    ∃ l, Run WalletStep (walletAt ∅) l ∧ lastState (walletAt ∅) l = walletAt {5} ∧
      walletAt {5} (walletAddress 5) = some (walletAccount 5) ∧
      (seedScan walletKit (rpcOf (walletAt {5})) wallet defaultSeedScanMax
        defaultSeedScanGapLimit).map JsMap.values = .ok [] ∧
      ¬FindsAll walletKit wallet walletAddress defaultSeedScanMax defaultSeedScanGapLimit
        (walletAt {5}) := by
  refine ⟨[(.delegate, walletAt {0}), (.delegate, walletAt {1, 0}), (.delegate, walletAt {2, 1, 0}),
    (.delegate, walletAt {3, 2, 1, 0}), (.delegate, walletAt {4, 3, 2, 1, 0}),
    (.delegate, walletAt {5, 4, 3, 2, 1, 0}), (.claimDelegate 0, walletAt {5, 4, 3, 2, 1}),
    (.claimDelegate 1, walletAt {5, 4, 3, 2}), (.claimDelegate 2, walletAt {5, 4, 3}),
    (.claimDelegate 3, walletAt {5, 4}), (.claimDelegate 4, walletAt {5})], ?_, rfl,
    by decide +kernel, by decide +kernel, fun hfinds => ?_⟩
  · refine .cons (walletStep_delegate 0 (by decide) (by decide +kernel) (by decide)) ?_
    refine .cons (walletStep_delegate 1 (by decide) (by decide +kernel) (by decide)) ?_
    refine .cons (walletStep_delegate 2 (by decide) (by decide +kernel) (by decide)) ?_
    refine .cons (walletStep_delegate 3 (by decide) (by decide +kernel) (by decide)) ?_
    refine .cons (walletStep_delegate 4 (by decide) (by decide +kernel) (by decide)) ?_
    refine .cons (walletStep_delegate 5 (by decide) (by decide +kernel) (by decide)) ?_
    iterate 5 refine .cons (walletStep_claimDelegate (by decide) (by decide) (by decide)) ?_
    exact .nil _
  · have hgapless := (findsAll_iff_gapless seedAddresses_wallet (by decide) (by decide)
      (stakeAccounts_walletAt {5})).mp hfinds
    obtain ⟨k, hk, hmem⟩ := hgapless 5 ⟨by decide, by decide +kernel⟩ 0 (by decide)
    have hfree : ∀ k < 5, walletAt {5} (walletAddress (0 + k)) = none := by decide +kernel
    exact hmem.2 (hfree k hk)

end GuardianStake.Solana
