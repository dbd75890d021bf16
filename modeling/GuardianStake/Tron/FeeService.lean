import GuardianStake.Tron.ExactAmounts

/-!
# Quotes on Tron

`services/fee-service.ts` against `tx/tx-builder.ts`: what `estimateFee` has checked of a transaction
when it quotes a fee, and what `buildUnsignedTx` asks beyond that.

* `estimateFee_total` — what is quoted: between nothing and the burn of the whole bandwidth.
* `exists_buildUnsignedTx_delegate`, `exists_buildUnsignedTx_undelegate` — which freezes and
  unfreezes are built.
* `estimateFee_buildable_iff` — **which quoted transactions are built**: every vote and claim, a
  freeze or an unfreeze of an exact and safe amount, and no redelegation.
* `estimateFee_redelegate` — a quote for what is never built.
-/

namespace GuardianStake.Tron

open Sdk

section quote

variable {isAddress : String → Bool} {rpc : TronRpcClient}
  {getWitnessMap : Result (List Validator)} {tx : Transaction} {fee : Fee}

/-! ### What is quoted -/

/-- The bandwidth left is never negative. -/
theorem availableBandwidth_nonneg {account : String} {available : ℤ}
    (h : availableBandwidth rpc account = .ok available) : 0 ≤ available := by
  unfold availableBandwidth at h
  split_ifs at h with haccount
  · exact (Except.ok.inj h).le
  · obtain ⟨res, -, h⟩ := bind_eq_ok.mp h
    obtain rfl := Except.ok.inj h
    split_ifs <;> omega

/-- **What is quoted**: a burn, of the bandwidth that is missing. -/
theorem estimateFee_total (h : estimateFee isAddress rpc getWitnessMap tx = .ok fee) :
    ∃ transactionFee total, rpc.getTransactionFee = .ok transactionFee ∧
      fee = .resourceFee estimatedTxBandwidth 0 total ∧ 0 ≤ total ∧
      total ≤ estimatedTxBandwidth * max 1 (transactionFee.getD 1000) := by
  obtain ⟨_, _, h⟩ := bind_eq_ok.mp h
  obtain ⟨transactionFee, htransactionFee, h⟩ := bind_eq_ok.mp h
  obtain ⟨_, _, h⟩ := bind_eq_ok.mp h
  obtain ⟨available, havailable, h⟩ := bind_eq_ok.mp h
  have hnonneg := availableBandwidth_nonneg havailable
  have hprice : 0 ≤ max 1 (transactionFee.getD 1000) := zero_le_one.trans (le_max_left _ _)
  refine ⟨transactionFee, _, htransactionFee, (Except.ok.inj h).symm, ?_, ?_⟩
  · split_ifs with hfree
    · exact le_rfl
    · exact mul_nonneg (by omega) hprice
  · split_ifs with hfree
    · exact mul_nonneg (by decide) hprice
    · exact mul_le_mul_of_nonneg_right (by omega) hprice

end quote

/-! ### What is built -/

section built

variable {base : BaseTransaction} {isMaxAmount : Bool} {validator : Option ValidatorRef}
  {resource : Option String} {stakeAccount : Option String}

/-- Tron has two resources. -/
theorem exists_assertResource :
    (∃ r, assertResource resource = .ok r) ↔
      resource = some "BANDWIDTH" ∨ resource = some "ENERGY" := by
  unfold assertResource
  split_ifs with hbandwidth henergy
  · simp [hbandwidth]
  · simp [henergy]
  · simp [hbandwidth, henergy]

/-- **Which freezes are built.** -/
theorem exists_buildUnsignedTx_delegate (ownerAddress : String) :
    (∃ contract, buildUnsignedTx (.delegate base isMaxAmount validator resource) ownerAddress =
        .ok contract) ↔
      isMaxAmount = false ∧ (∃ r, assertResource resource = .ok r) ∧ sunPerTrx ≤ base.amount ∧
        base.amount ≤ maxSafeInteger := by
  constructor
  · rintro ⟨contract, h⟩
    obtain ⟨hmin, hmax, -⟩ := buildUnsignedTx_delegate_eq_ok h
    unfold buildUnsignedTx at h
    obtain ⟨hexact, h⟩ := guard_eq_ok.mp h
    obtain ⟨r, hr, -⟩ := bind_eq_ok.mp h
    exact ⟨Bool.eq_false_iff.mpr hexact, ⟨r, hr⟩, hmin, hmax⟩
  · rintro ⟨hexact, ⟨r, hr⟩, hmin, hmax⟩
    refine ⟨.freezeBalanceV2 (toNumber base.amount) r ownerAddress, ?_⟩
    unfold buildUnsignedTx
    refine guard_eq_ok.mpr ⟨Bool.eq_false_iff.mp hexact, ?_⟩
    refine bind_eq_ok.mpr ⟨r, hr, ?_⟩
    exact guard_eq_ok.mpr ⟨not_lt.mpr hmin, guard_eq_ok.mpr ⟨not_lt.mpr hmax, rfl⟩⟩

/-- **Which unfreezes are built.** -/
theorem exists_buildUnsignedTx_undelegate (ownerAddress : String) :
    (∃ contract, buildUnsignedTx (.undelegate base isMaxAmount validator resource stakeAccount)
        ownerAddress = .ok contract) ↔
      isMaxAmount = false ∧ (∃ r, assertResource resource = .ok r) ∧ 0 < base.amount ∧
        base.amount ≤ maxSafeInteger := by
  constructor
  · rintro ⟨contract, h⟩
    obtain ⟨hpos, hmax, -⟩ := buildUnsignedTx_undelegate_eq_ok h
    unfold buildUnsignedTx at h
    obtain ⟨hexact, h⟩ := guard_eq_ok.mp h
    obtain ⟨r, hr, -⟩ := bind_eq_ok.mp h
    exact ⟨Bool.eq_false_iff.mpr hexact, ⟨r, hr⟩, hpos, hmax⟩
  · rintro ⟨hexact, ⟨r, hr⟩, hpos, hmax⟩
    refine ⟨.unfreezeBalanceV2 (toNumber base.amount) r ownerAddress, ?_⟩
    unfold buildUnsignedTx
    refine guard_eq_ok.mpr ⟨Bool.eq_false_iff.mp hexact, ?_⟩
    refine bind_eq_ok.mpr ⟨r, hr, ?_⟩
    exact guard_eq_ok.mpr ⟨not_le.mpr hpos, guard_eq_ok.mpr ⟨not_lt.mpr hmax, rfl⟩⟩

end built

/-! ### Quoted and built -/

/-- What the builder asks of a transaction that has been quoted. -/
def Buildable : Transaction → Prop
  | .delegate base isMaxAmount _ resource =>
      isMaxAmount = false ∧ (resource = some "BANDWIDTH" ∨ resource = some "ENERGY") ∧
        base.amount ≤ maxSafeInteger
  | .undelegate base isMaxAmount _ _ _ => isMaxAmount = false ∧ base.amount ≤ maxSafeInteger
  | .vote .. | .claimDelegate .. | .claimRewards .. => True
  | .redelegate .. => False

/-- **Which quoted transactions are built.** -/
theorem estimateFee_buildable_iff {isAddress : String → Bool} {rpc : TronRpcClient}
    {getWitnessMap : Result (List Validator)} {tx : Transaction} {fee : Fee}
    (h : estimateFee isAddress rpc getWitnessMap tx = .ok fee) (ownerAddress : String) :
    (∃ contract, buildUnsignedTx tx ownerAddress = .ok contract) ↔ Buildable tx := by
  have hcheck := checkTransaction_of_estimateFee h
  cases tx with
  | delegate base isMaxAmount validator resource =>
      -- the amount has been checked from below, the resource has not been looked at
      obtain ⟨_, _, hcheck⟩ := bind_eq_ok.mp hcheck
      obtain ⟨account, _, hfreeze⟩ := bind_eq_ok.mp hcheck
      unfold assertFreeze at hfreeze
      obtain ⟨hmin, -⟩ := guard_eq_ok.mp hfreeze
      rw [exists_buildUnsignedTx_delegate, exists_assertResource]
      simp only [Buildable, not_lt.mp hmin, true_and]
  | undelegate base isMaxAmount validator resource stakeAccount =>
      obtain ⟨_, _, hcheck⟩ := bind_eq_ok.mp hcheck
      obtain ⟨account, _, hcheck⟩ := bind_eq_ok.mp hcheck
      obtain ⟨r, hr, hunfreeze⟩ := bind_eq_ok.mp hcheck
      unfold assertUnfreeze at hunfreeze
      obtain ⟨hpos, -⟩ := guard_eq_ok.mp hunfreeze
      rw [exists_buildUnsignedTx_undelegate]
      have hresource : ∃ r, assertResource resource = .ok r := ⟨r, hr⟩
      simp only [Buildable, hresource, not_le.mp hpos, true_and]
  | vote base validator =>
      refine iff_of_true ?_ trivial
      obtain ⟨_, _, _, _, _, hvote⟩ := estimateFee_vote_eq_ok h
      obtain ⟨hpos, hwhole, -⟩ := assertVote_eq_ok hvote
      exact ⟨_, buildUnsignedTx_vote.mpr ⟨hpos, Int.dvd_of_tmod_eq_zero hwhole, rfl⟩⟩
  | claimDelegate base validator index stakeAccount => exact iff_of_true ⟨_, rfl⟩ trivial
  | claimRewards base validator => exact iff_of_true ⟨_, rfl⟩ trivial
  | redelegate base isMaxAmount fromValidator toValidator =>
      refine iff_of_false ?_ not_false
      rintro ⟨contract, h⟩
      cases h

/-! ### A redelegation and a freeze -/

/-- A node at the default price, for an account of 10 TRX with no bandwidth left. -/
def exhaustedRpc : TronRpcClient where
  getAccount := fun _ => .ok { balance := 10000000, frozen := [], unfreezing := [], votes := [] }
  getReward := fun _ => .error (.api "not asked")
  getTransactionFee := .ok none
  getAccountResources := fun _ => .ok ⟨600, 600, 0, 0⟩

/-- A transaction of 1 TRX of that account. -/
def oneTrx : BaseTransaction where
  chain := { id := "tron-mainnet", chainId := none }
  amount := 1000000
  account := some "TMVQGm1qAQYVdetCeGRRkTWYYrLXuHK2HC"

/-- A redelegation of 1 TRX. -/
def redelegation : Transaction :=
  .redelegate oneTrx false (.operatorAddress "TFrom") (.operatorAddress "TTo")

/-- A freeze of 1 TRX for energy. -/
def energyFreeze : Transaction := .delegate oneTrx false none (some "ENERGY")

/-- Both are quoted at 0.35 TRX; the redelegation is never built, the freeze is. -/
theorem estimateFee_redelegate :
    estimateFee (fun _ => true) exhaustedRpc (.ok []) redelegation =
        .ok (.resourceFee 350 0 350000) ∧
      (¬∃ contract, buildUnsignedTx redelegation "TOwner" = .ok contract) ∧
      estimateFee (fun _ => true) exhaustedRpc (.ok []) energyFreeze =
        .ok (.resourceFee 350 0 350000) ∧
      ∃ contract, buildUnsignedTx energyFreeze "TOwner" = .ok contract := by
  have hredelegation : estimateFee (fun _ => true) exhaustedRpc (.ok []) redelegation =
      .ok (.resourceFee 350 0 350000) := by
    decide +kernel
  have hfreeze : estimateFee (fun _ => true) exhaustedRpc (.ok []) energyFreeze =
      .ok (.resourceFee 350 0 350000) := by
    decide +kernel
  refine ⟨hredelegation, (estimateFee_buildable_iff hredelegation "TOwner").not.mpr not_false,
    hfreeze, ?_⟩
  exact (estimateFee_buildable_iff hfreeze "TOwner").mpr ⟨rfl, Or.inr rfl, by decide⟩

end GuardianStake.Tron
