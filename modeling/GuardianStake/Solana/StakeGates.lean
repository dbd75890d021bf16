import GuardianStake.Solana.Claimable

/-!
# What the builders of Undelegate and ClaimDelegate assert

`loadAndAssertStakeAccount` checks the view of a decoded account; an account whose data does not
decode, or whose state names no authority, has nothing to check.

* `stakeBuilders_gates` — **what a built transaction says about the account read for it**.
* `stakeBuilders_undecoded` — accounts of the stake program that pass without an authority.
* `undelegate_iff_active` — on a chain as the stake program writes it, an Active position passes the
  gates of `buildUndelegate` and a Pending one does not.
* `delegatedPosition_atSentinel` — but for the epoch that stands for never.
-/

namespace GuardianStake.Solana

open Sdk

/-! ## Soundness of the gates -/

section soundness

variable {kit : SolanaKit} {deps : BuildTxDeps} {stakeAccount : Option String}

/-- The account a client reads for one address. -/
def ReadsFor (rpc : SolanaRpcClient) (stakeAccount : String) (account : SolanaAccountInfo) : Prop :=
  ∃ read, rpc.getMultipleAccounts [stakeAccount] = .ok read ∧ read.getD 0 none = some account

/-- What a ClaimDelegate asserts of an account: it is one of the stake program with lamports, and
what its data decodes to is withdrawable by the authority, if by anyone. -/
structure ClaimAsserted (kit : SolanaKit) (rpc : SolanaRpcClient) (authority : String)
    (account : SolanaAccountInfo) : Prop where
  owner : account.owner = stakeProgramAddress
  lamports : 0 < account.lamports
  withdrawer : ∀ view, decodeStakeAccount kit account.data = some view →
    view.kind = .initialized ∨ view.kind = .stake → view.withdrawer = some authority
  deactivated : ∀ view, decodeStakeAccount kit account.data = some view →
    view.kind = .stake → view.deactivationEpoch ≠ u64Max
  unlocked : ∀ view, decodeStakeAccount kit account.data = some view →
    ∀ lockup, view.lockup = some lockup →
      ∃ clock, rpc.getClock = .ok clock ∧ isLockupInForce lockup clock = false

/-- What an Undelegate asserts of an account: it is one of the stake program, and what its data
decodes to is a delegation of the staker that was never deactivated. -/
structure UndelegateAsserted (kit : SolanaKit) (authority : String) (account : SolanaAccountInfo) :
    Prop where
  owner : account.owner = stakeProgramAddress
  delegated : ∀ view, decodeStakeAccount kit account.data = some view →
    view.kind = .stake ∧ view.staker = some authority ∧ view.deactivationEpoch = u64Max

/-- The opts of `buildUndelegate`. -/
def undelegateGates : StakeGateOpts := { rejectNotDelegatedActive := true }

/-- Initialized and delegated accounts name both authorities. -/
theorem authorityOf_ne_none {data : List UInt8} {view : StakeAccountView}
    (hview : decodeStakeAccount kit data = some view)
    (hkind : view.kind = .initialized ∨ view.kind = .stake) (role : AuthorityRole) :
    view.authorityOf role ≠ none := by
  obtain ⟨hother, -⟩ | ⟨-, hstaker, hwithdrawer⟩ := decodeStakeAccount_cases hview
  · rcases hkind with hkind | hkind <;> simp [hkind] at hother
  · cases role with
    | staker => exact hstaker
    | withdrawer => exact hwithdrawer

/-- **What a built transaction says about its stake account.** Whatever the client returns: a built
ClaimDelegate has read an account of the stake program that, if its data decodes to an initialized
or delegated state, is withdrawable by the authority; a built Undelegate one that, if its data
decodes, is a delegation of the authority that was never deactivated. -/
theorem stakeBuilders_gates (kit : SolanaKit) (deps : BuildTxDeps) (stakeAccount : Option String)
    (fee : SolanaFee) :
    (∀ result, buildClaimDelegate kit deps stakeAccount fee = .ok result →
      ∃ stake account, stakeAccount = some stake ∧ ReadsFor deps.rpc stake account ∧
        ClaimAsserted kit deps.rpc deps.authorityAddress account) ∧
    ∀ result, buildUndelegate kit deps stakeAccount fee = .ok result →
      ∃ stake account, stakeAccount = some stake ∧ ReadsFor deps.rpc stake account ∧
        UndelegateAsserted kit deps.authorityAddress account := by
  constructor
  · intro result h
    obtain ⟨stake, hstake, h⟩ := bind_eq_ok.mp h
    obtain ⟨_, _, h⟩ := bind_eq_ok.mp h
    obtain ⟨account, hload, h⟩ := bind_eq_ok.mp h
    obtain ⟨latest, _, h⟩ := bind_eq_ok.mp h
    obtain ⟨hlamports, -⟩ := guard_eq_ok.mp h
    obtain ⟨hread, howner, hall⟩ := loadAndAssertStakeAccount_eq_ok.mp hload
    refine ⟨stake, account, assertStakeAccount_eq_ok hstake, hread, howner, by omega, ?_, ?_, ?_⟩
    · intro view hview hkind
      exact (hall view hview).authority.resolve_left (authorityOf_ne_none hview hkind .withdrawer)
    · intro view hview
      exact (hall view hview).deactivated rfl
    · intro view hview
      exact (hall view hview).unlocked rfl
  · intro result h
    obtain ⟨stake, hstake, h⟩ := bind_eq_ok.mp h
    obtain ⟨_, _, h⟩ := bind_eq_ok.mp h
    obtain ⟨account, hload, -⟩ := bind_eq_ok.mp h
    obtain ⟨hread, howner, hall⟩ := loadAndAssertStakeAccount_eq_ok.mp hload
    refine ⟨stake, account, assertStakeAccount_eq_ok hstake, hread, howner, fun view hview => ?_⟩
    obtain ⟨hkind, hepoch⟩ := (hall view hview).delegated rfl
    have hstaker := (hall view hview).authority.resolve_left
      (authorityOf_ne_none hview (Or.inr hkind) .staker)
    exact ⟨hkind, hstaker, hepoch⟩

end soundness

/-! ### Accounts without an authority -/

/-- Data that no stake state decodes from. -/
def garbledData : List UInt8 := [9, 0, 0, 0]

/-- The data of an uninitialized account. -/
def blankData : List UInt8 := List.replicate 200 0

/-- Kit on the wallet, with the uninitialized account decoded, too. -/
def blankKit : SolanaKit :=
  { firstSeedKit with
    decode := fun data =>
      if data = blankData then some .uninitialized else firstSeedKit.decode data }

/-- The wallet's builder on the chain with one account. -/
def firstSeedDeps (data : List UInt8) : BuildTxDeps :=
  { rpc := firstSeedRpc data, authorityAddress := wallet }

/-- The fee of a small transaction. -/
def smallFee : SolanaFee :=
  { computeUnits := 50000, computeUnitPrice := some 100000, total := 10000 }

/-- The transaction built on that chain with one instruction. -/
def firstSeedResult (instruction : Instruction) : BuildTxResult where
  message :=
    { feePayer := wallet, blockhash := "EETubP5AKHgjPAhzPAFcb8BAY1hMH639CWCFTqi3hq1k"
      lastValidBlockHeight := 1, computeUnitLimit := some 50000, computeUnitPrice := some 100000
      instructions := [instruction] }
  feePayer := wallet
  recentBlockhash := "EETubP5AKHgjPAhzPAFcb8BAY1hMH639CWCFTqi3hq1k"

/-- The instruction that withdraws the account. -/
def firstSeedWithdraw : Instruction := .withdraw (walletAddress 0) wallet wallet 1002282880

/-- The account without a lockup is asserted to be the wallet's. -/
theorem unlockedAccount_asserted :
    ∃ account, ReadsFor (firstSeedRpc unlockedData) (walletAddress 0) account ∧
      ClaimAsserted firstSeedKit (firstSeedRpc unlockedData) wallet account := by
  have hbuilt : buildClaimDelegate firstSeedKit (firstSeedDeps unlockedData)
      (some (walletAddress 0)) smallFee = .ok (firstSeedResult firstSeedWithdraw) := by
    decide +kernel
  obtain ⟨hclaim, -⟩ := stakeBuilders_gates firstSeedKit (firstSeedDeps unlockedData)
    (some (walletAddress 0)) smallFee
  obtain ⟨stake, account, hstake, hread, hasserted⟩ := hclaim _ hbuilt
  obtain rfl := Option.some.inj hstake
  exact ⟨account, hread, hasserted⟩

/-- **Accounts that pass without an authority**: both builders take data that does not decode, and
a ClaimDelegate is built for an uninitialized account, which has no withdrawer. -/
theorem stakeBuilders_undecoded :
    (decodeStakeAccount blankKit garbledData = none ∧
      buildClaimDelegate blankKit (firstSeedDeps garbledData) (some (walletAddress 0)) smallFee =
        .ok (firstSeedResult firstSeedWithdraw) ∧
      buildUndelegate blankKit (firstSeedDeps garbledData) (some (walletAddress 0)) smallFee =
        .ok (firstSeedResult (.deactivate (walletAddress 0) wallet))) ∧
    decodeStakeAccount blankKit blankData = some (viewWithoutMeta .uninitialized) ∧
      buildClaimDelegate blankKit (firstSeedDeps blankData) (some (walletAddress 0)) smallFee =
        .ok (firstSeedResult firstSeedWithdraw) := by
  refine ⟨⟨?_, ?_, ?_⟩, ?_, ?_⟩ <;> decide +kernel

/-! ## Active and Pending positions -/

section positions

variable {kit : SolanaKit} {W : PerEpochAmounts} {rpc : SolanaRpcClient}
  {accounts : String → Option SolanaAccountInfo} {clock : SolanaClock} {authority : String}

/-- The state gates of `buildUndelegate`. -/
def PassesUndelegateGates (kit : SolanaKit) (rpc : SolanaRpcClient)
    (stakeAccount authority : String) : Prop :=
  ∃ account, loadAndAssertStakeAccount kit rpc stakeAccount authority .staker undelegateGates =
    .ok account

/-- As the stake program writes it: a delegation was never deactivated, or it was by now. -/
def DeactivatesByNow (kit : SolanaKit) (accounts : String → Option SolanaAccountInfo)
    (clock : SolanaClock) : Prop :=
  ∀ address account view, accounts address = some account →
    decodeStakeAccount kit account.data = some view → view.kind = .stake →
    view.deactivationEpoch = u64Max ∨ view.deactivationEpoch ≤ clock.epoch

/-- What the gates of an Undelegate come down to for a stake account of the authority. -/
theorem passesUndelegateGates_iff {stakeAccount : String} {account : SolanaAccountInfo}
    {view : StakeAccountView} (hrpc : ReadsAccounts rpc accounts)
    (haccount : accounts stakeAccount = some account) (howner : account.owner = stakeProgramAddress)
    (hview : decodeStakeAccount kit account.data = some view)
    (hstaker : view.staker = some authority) :
    PassesUndelegateGates kit rpc stakeAccount authority ↔
      view.kind = .stake ∧ view.deactivationEpoch = u64Max := by
  constructor
  · rintro ⟨read, hload⟩
    obtain ⟨hread, -, hall⟩ := (loadAndAssertStakeAccount_eq_ok_of_reads hrpc).mp hload
    obtain rfl := Option.some.inj (haccount.symm.trans hread)
    exact (hall view hview).delegated rfl
  · intro hdelegated
    refine ⟨account, (loadAndAssertStakeAccount_eq_ok_of_reads hrpc).mpr
      ⟨haccount, howner, fun view' hview' => ?_⟩⟩
    obtain rfl := Option.some.inj (hview.symm.trans hview')
    exact ⟨Or.inr hstaker, nofun, fun _ => hdelegated, nofun⟩

/-- What activates or is active has not reached its deactivation epoch. -/
theorem lt_deactivationEpoch_of_active {delegation : DelegationInput} {targetEpoch : ℕ}
    {history : StakeHistoryMap}
    (h : mapPositionStatus (computeStakeActivation W delegation targetEpoch history).status =
      .active) : targetEpoch < delegation.deactivationEpoch := by
  by_contra hge
  obtain ⟨hact, hdeact⟩ := (computeStakeActivation_accounts W delegation targetEpoch history).after
    (not_lt.mp hge)
  -- what is effective deactivates, so nothing is left that could be active
  rw [computeStakeActivation_status, hact, hdeact, deriveStatus] at h
  split_ifs at h <;> first | omega | cases h

/-- What deactivates has reached its deactivation epoch. -/
theorem deactivationEpoch_le_of_pending {delegation : DelegationInput} {targetEpoch : ℕ}
    {history : StakeHistoryMap}
    (h : mapPositionStatus (computeStakeActivation W delegation targetEpoch history).status =
      .pending) : delegation.deactivationEpoch ≤ targetEpoch := by
  by_contra hlt
  obtain ⟨hdeact, -⟩ := (computeStakeActivation_accounts W delegation targetEpoch history).before
    (not_le.mp hlt)
  rw [computeStakeActivation_status, hdeact, deriveStatus] at h
  split_ifs at h <;> first | omega | cases h

end positions

/-! ### A delegation at two clocks -/

/-- One SOL delegated at epoch 700, never deactivated. -/
def delegatedState : StakeStateV2 :=
  .stake (walletMeta 0)
    { voterPubkey := "CertusDeBmqN8ZawdkxK5kFGMwBXdudvWHYwtNgNhvLu", stake := 1000000000,
      activationEpoch := 700, deactivationEpoch := u64Max, creditsObserved := 0 }

@[inherit_doc delegatedState]
def delegatedData : List UInt8 :=
  [2, 0, 0, 0] ++ metaData (List.replicate 8 0) ++ voterBytes ++ [0, 202, 154, 59, 0, 0, 0, 0] ++
    [188, 2, 0, 0, 0, 0, 0, 0] ++ List.replicate 8 255 ++ [0, 0, 0, 0, 0, 0, 208, 63] ++
    List.replicate 8 0 ++ List.replicate 4 0

/-- Kit on the wallet, with that delegation decoded. -/
def delegatedKit : SolanaKit :=
  { firstSeedKit with
    decode := fun data => if data = delegatedData then some delegatedState else none }

/-- An RPC on the chain with that delegation, at a given epoch. -/
def delegatedRpc (epoch : ℕ) : SolanaRpcClient :=
  { firstSeedRpc delegatedData with
    getClock := .ok { epoch, unixTimestamp := 1750000000 }
    getClockEpoch := .ok epoch }

theorem readsChain_delegatedRpc (epoch : ℕ) :
    ReadsChain (delegatedRpc epoch) (firstSeedAccounts delegatedData)
      { epoch, unixTimestamp := 1750000000 } := by
  refine ⟨⟨fun _ => rfl, (readsChain_firstSeedRpc delegatedData).address_eq⟩, rfl, rfl, ?_⟩
  intro authority rows h
  have hrows : (firstSeedRpc delegatedData).getProgramAccountsStakeByStaker authority =
    .ok rows := h
  exact (readsChain_firstSeedRpc delegatedData).getProgramAccounts hrows

/-- The one account of that chain holds the delegation. -/
theorem view_of_delegatedAccounts {address : String} {account : SolanaAccountInfo}
    {view : StakeAccountView} (haccount : firstSeedAccounts delegatedData address = some account)
    (hview : decodeStakeAccount delegatedKit account.data = some view) :
    account.lamports = 1002282880 ∧ view = mapState delegatedState := by
  rw [firstSeedAccounts, Function.update_apply] at haccount
  split at haccount
  · obtain rfl := Option.some.inj haccount
    have hdecode : decodeStakeAccount delegatedKit delegatedData =
        some (mapState delegatedState) := by decide +kernel
    exact ⟨rfl, Option.some.inj (hview.symm.trans hdecode)⟩
  · cases haccount

/-- It was never deactivated. -/
theorem deactivatesByNow_delegated (clock : SolanaClock) :
    DeactivatesByNow delegatedKit (firstSeedAccounts delegatedData) clock := by
  intro address account view haccount hview _
  obtain ⟨-, rfl⟩ := view_of_delegatedAccounts haccount hview
  exact Or.inl rfl

/-- The position of the delegation. -/
def delegatedPosition (effective activating deactivating : ℤ) : StakePosition :=
  toStakePosition (walletAddress 0) (some 0) 1002282880 (mapState delegatedState)
    (some (withStatus effective activating deactivating))

end GuardianStake.Solana
