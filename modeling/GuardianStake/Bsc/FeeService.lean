import GuardianStake.Bsc.SignService

/-!
# Fees on BSC

`services/fee-service.ts`: what the node reports, within bounds, as a fee.

* `assertSaneGasPrice_eq_ok`, `assertSaneGasLimit_eq_ok` — which reports are accepted.
* `estimateFee_eq_ok` — when a fee is quoted, and which.
* `estimateFee_quotes_signed` — **a quote is for what will be signed**: the call the node was asked
  about is the one `buildUnsignedTransaction` builds with the quote, for any nonce; its gas is the
  estimate and 15%, its price the reported one raised to the floor, and what it can cost is the
  total, of 10 BNB at most.
-/

namespace GuardianStake.Bsc

open Sdk

/-! ## The code -/

/-- Source: `services/fee-service.ts`, `MIN_GAS_PRICE_WEI`. -/
def minGasPriceWei : ℤ := 10000000

/-- Source: `services/fee-service.ts`, `MAX_GAS_PRICE_WEI`. -/
def maxGasPriceWei : ℤ := 100000000000

/-- Source: `services/fee-service.ts`, `MAX_GAS_LIMIT`. -/
def maxGasLimit : ℤ := 100000000

/-- What the fee service uses of viem's `PublicClient`. -/
structure GasClient where
  getGasPrice : Result ℤ
  estimateGas : (account «to» : String) → (value : ℤ) → (data : String) → Result ℤ

/-- Source: `services/fee-service.ts`, `assertSaneGasPrice`. -/
def assertSaneGasPrice (gasPrice : ℤ) : Result ℤ := do
  if gasPrice ≤ 0 then
    throw (.validation .invalidFee "RPC-reported gasPrice must be greater than zero.")
  if maxGasPriceWei < gasPrice then
    throw (.validation .invalidFee
      s!"RPC-reported gasPrice exceeds the sanity ceiling (max {maxGasPriceWei} wei).")
  return if gasPrice < minGasPriceWei then minGasPriceWei else gasPrice

/-- Source: `services/fee-service.ts`, `assertSaneGasLimit`. -/
def assertSaneGasLimit (gasLimit : ℤ) : Result Unit := do
  if gasLimit ≤ 0 then
    throw (.validation .invalidFee "RPC-reported gasLimit must be greater than zero.")
  if maxGasLimit < gasLimit then
    throw (.validation .invalidFee
      s!"RPC-reported gasLimit exceeds the sanity ceiling (max {maxGasLimit}).")

/-- Source: `services/fee-service.ts`, `estimateFee`. -/
def estimateFee (viem : Viem) (rpc : StakingRpcClient) (client : GasClient)
    (transaction : Transaction) : Result Fee :=
  match transaction.account with
  | none =>
      .error (.validation .invalidAddress "Account address is required to estimate fee")
  | some account => do
      let account ← parseEvmAddress viem account
      let callData ← buildCallData viem rpc transaction
      -- the two reads are made at once
      let rawGasPrice ← client.getGasPrice
      let rawGasLimit ← client.estimateGas account stakingContract callData.amount callData.data
      assertSaneGasLimit rawGasLimit
      let gasPrice ← assertSaneGasPrice rawGasPrice
      let increasedLimit := (rawGasLimit * 115).tdiv 100
      assertSaneGasLimit increasedLimit
      return .gasFee gasPrice increasedLimit (gasPrice * increasedLimit)

/-! ## What is accepted -/

/-- A reported price is accepted up to the ceiling, and raised to the floor. -/
theorem assertSaneGasPrice_eq_ok {rawGasPrice gasPrice : ℤ} :
    assertSaneGasPrice rawGasPrice = .ok gasPrice ↔
      0 < rawGasPrice ∧ rawGasPrice ≤ maxGasPriceWei ∧
        gasPrice = max minGasPriceWei rawGasPrice := by
  have hfloor : (if rawGasPrice < minGasPriceWei then minGasPriceWei else rawGasPrice) =
      max minGasPriceWei rawGasPrice := by
    split_ifs with h
    · exact (max_eq_left h.le).symm
    · exact (max_eq_right (not_lt.mp h)).symm
  unfold assertSaneGasPrice
  rw [guard_eq_ok, guard_eq_ok, not_le, not_lt, hfloor]
  refine and_congr_right fun _ => and_congr_right fun _ => ?_
  show Except.ok (max minGasPriceWei rawGasPrice) = Except.ok gasPrice ↔ _
  rw [Except.ok.injEq, eq_comm]

/-- A limit is accepted up to the ceiling. -/
theorem assertSaneGasLimit_eq_ok {gasLimit : ℤ} :
    assertSaneGasLimit gasLimit = .ok () ↔ 0 < gasLimit ∧ gasLimit ≤ maxGasLimit := by
  unfold assertSaneGasLimit
  rw [guard_eq_ok, not_le]
  refine and_congr_right fun _ => ?_
  split_ifs with h
  · simpa [throw, throwThe, MonadExceptOf.throw] using h
  · simpa [pure, Except.pure] using h

/-! ## Quotes -/

/-- A report that is accepted. -/
structure Sane (rawGasPrice rawGasLimit : ℤ) : Prop where
  price_pos : 0 < rawGasPrice
  price_le : rawGasPrice ≤ maxGasPriceWei
  limit_pos : 0 < rawGasLimit
  limit_le : rawGasLimit * 115 / 100 ≤ maxGasLimit

/-- The fee of a report. -/
def feeOf (rawGasPrice rawGasLimit : ℤ) : Fee :=
  let gasPrice := max minGasPriceWei rawGasPrice
  let gasLimit := rawGasLimit * 115 / 100
  .gasFee gasPrice gasLimit (gasPrice * gasLimit)

section quote

variable {viem : Viem} {rpc : StakingRpcClient} {client : GasClient} {transaction : Transaction}
  {fee : Fee}

/-- **When a fee is quoted, and which.** -/
theorem estimateFee_eq_ok :
    estimateFee viem rpc client transaction = .ok fee ↔
      ∃ account callData rawGasPrice rawGasLimit, transaction.account = some account ∧
        viem.isAddress account = true ∧ buildCallData viem rpc transaction = .ok callData ∧
        client.getGasPrice = .ok rawGasPrice ∧
        client.estimateGas account stakingContract callData.amount callData.data =
          .ok rawGasLimit ∧
        Sane rawGasPrice rawGasLimit ∧ fee = feeOf rawGasPrice rawGasLimit := by
  have htdiv {n : ℤ} (hn : 0 < n) : (n * 115).tdiv 100 = n * 115 / 100 :=
    Int.tdiv_eq_ediv_of_nonneg (by omega)
  unfold estimateFee
  constructor
  · intro h
    split at h
    · cases h
    · next account haccount =>
        obtain ⟨account', hparsed, h⟩ := bind_eq_ok.mp h
        obtain ⟨haddress, rfl⟩ := parseEvmAddress_eq_ok.mp hparsed
        obtain ⟨callData, hcallData, h⟩ := bind_eq_ok.mp h
        obtain ⟨rawGasPrice, hprice, h⟩ := bind_eq_ok.mp h
        obtain ⟨rawGasLimit, hlimit, h⟩ := bind_eq_ok.mp h
        obtain ⟨_, hsaneLimit, h⟩ := bind_eq_ok.mp h
        obtain ⟨gasPrice, hsanePrice, h⟩ := bind_eq_ok.mp h
        obtain ⟨_, hsaneIncreased, h⟩ := bind_eq_ok.mp h
        obtain rfl := Except.ok.inj h
        obtain ⟨hpricePos, hpriceLe, rfl⟩ := assertSaneGasPrice_eq_ok.mp hsanePrice
        obtain ⟨hlimitPos, -⟩ := assertSaneGasLimit_eq_ok.mp hsaneLimit
        obtain ⟨-, hlimitLe⟩ := assertSaneGasLimit_eq_ok.mp hsaneIncreased
        rw [htdiv hlimitPos] at hlimitLe ⊢
        exact ⟨account, callData, rawGasPrice, rawGasLimit, haccount, haddress, hcallData, hprice,
          hlimit, ⟨hpricePos, hpriceLe, hlimitPos, hlimitLe⟩, rfl⟩
  · rintro ⟨account, callData, rawGasPrice, rawGasLimit, haccount, haddress, hcallData, hprice,
      hlimit, hsane, rfl⟩
    have hpos := hsane.limit_pos
    have hle := hsane.limit_le
    have hsaneLimit : assertSaneGasLimit rawGasLimit = .ok () :=
      assertSaneGasLimit_eq_ok.mpr ⟨hpos, by omega⟩
    have hsanePrice := assertSaneGasPrice_eq_ok.mpr ⟨hsane.price_pos, hsane.price_le, rfl⟩
    have hsaneIncreased : assertSaneGasLimit ((rawGasLimit * 115).tdiv 100) = .ok () := by
      rw [htdiv hpos]
      exact assertSaneGasLimit_eq_ok.mpr ⟨by omega, hle⟩
    rw [haccount]
    refine bind_eq_ok.mpr ⟨account, parseEvmAddress_eq_ok.mpr ⟨haddress, rfl⟩, ?_⟩
    refine bind_eq_ok.mpr ⟨callData, hcallData, bind_eq_ok.mpr ⟨rawGasPrice, hprice, ?_⟩⟩
    refine bind_eq_ok.mpr ⟨rawGasLimit, hlimit, bind_eq_ok.mpr ⟨(), hsaneLimit, ?_⟩⟩
    refine bind_eq_ok.mpr ⟨_, hsanePrice, bind_eq_ok.mpr ⟨(), hsaneIncreased, ?_⟩⟩
    rw [htdiv hpos]
    rfl

/-- **A quote is for what will be signed**: with the quoted fee, and any nonce, the transaction that
is built makes the call the node was asked about, with the gas of the estimate and 15% more, at the
reported price raised to the floor; what it can cost is the total, of 10 BNB at most. -/
theorem estimateFee_quotes_signed (h : estimateFee viem rpc client transaction = .ok fee)
    (nonce : Number) :
    ∃ account unsignedTx rawGasPrice rawGasLimit, transaction.account = some account ∧
      buildUnsignedTransaction viem rpc { transaction, fee, nonce } = .ok unsignedTx ∧
      client.getGasPrice = .ok rawGasPrice ∧
      client.estimateGas account unsignedTx.to unsignedTx.value unsignedTx.data =
        .ok rawGasLimit ∧
      unsignedTx.gas = rawGasLimit * 115 / 100 ∧
      unsignedTx.gasPrice = max minGasPriceWei rawGasPrice ∧
      rawGasLimit ≤ unsignedTx.gas ∧ 100 * unsignedTx.gas ≤ 115 * rawGasLimit ∧
      unsignedTx.gas ≤ maxGasLimit ∧
      rawGasPrice ≤ unsignedTx.gasPrice ∧ minGasPriceWei ≤ unsignedTx.gasPrice ∧
      unsignedTx.gasPrice ≤ maxGasPriceWei ∧
      fee = .gasFee unsignedTx.gasPrice unsignedTx.gas (unsignedTx.gasPrice * unsignedTx.gas) ∧
      unsignedTx.gasPrice * unsignedTx.gas ≤ 10 ^ 19 := by
  obtain ⟨account, callData, rawGasPrice, rawGasLimit, haccount, -, hcallData, hprice, hlimit,
    hsane, rfl⟩ := estimateFee_eq_ok.mp h
  obtain ⟨hpricePos, hpriceLe, hlimitPos, hlimitLe⟩ := hsane
  have hmax : max minGasPriceWei rawGasPrice ≤ maxGasPriceWei :=
    max_le (by norm_num [minGasPriceWei, maxGasPriceWei]) hpriceLe
  have htotal : max minGasPriceWei rawGasPrice * (rawGasLimit * 115 / 100) ≤ 10 ^ 19 := by
    calc max minGasPriceWei rawGasPrice * (rawGasLimit * 115 / 100)
        ≤ maxGasPriceWei * maxGasLimit :=
          mul_le_mul hmax hlimitLe (by omega) (by norm_num [maxGasPriceWei])
      _ = 10 ^ 19 := by norm_num [maxGasPriceWei, maxGasLimit]
  refine ⟨account, _, rawGasPrice, rawGasLimit, haccount,
    bind_eq_ok.mpr ⟨callData, hcallData, rfl⟩, hprice, hlimit, rfl, rfl, ?_, ?_, hlimitLe,
    le_max_right _ _, le_max_left _ _, hmax, rfl, htotal⟩
  · show rawGasLimit ≤ rawGasLimit * 115 / 100
    omega
  · show 100 * (rawGasLimit * 115 / 100) ≤ 115 * rawGasLimit
    omega

end quote

/-! ### The fee of a Delegate -/

/-- A node that reports 1 gwei and 200000 gas. -/
def gweiClient : GasClient where
  getGasPrice := .ok 1000000000
  estimateGas := fun _ _ _ _ => .ok 200000

/-- The quote is 230000 gas at 1 gwei, and is signed. -/
theorem estimateFee_quotes_delegate :
    estimateFee delegateViem noShares gweiClient (delegateArgs signerAddress).transaction =
        .ok (.gasFee 1000000000 230000 230000000000000) ∧
      ∃ account unsignedTx rawGasPrice rawGasLimit,
        (delegateArgs signerAddress).transaction.account = some account ∧
        buildUnsignedTransaction delegateViem noShares
          { transaction := (delegateArgs signerAddress).transaction
            fee := .gasFee 1000000000 230000 230000000000000, nonce := .int 1 } =
          .ok unsignedTx ∧
        gweiClient.getGasPrice = .ok rawGasPrice ∧
        gweiClient.estimateGas account unsignedTx.to unsignedTx.value unsignedTx.data =
          .ok rawGasLimit ∧
        unsignedTx.gas = rawGasLimit * 115 / 100 ∧
        unsignedTx.gasPrice = max minGasPriceWei rawGasPrice ∧
        rawGasLimit ≤ unsignedTx.gas ∧ 100 * unsignedTx.gas ≤ 115 * rawGasLimit ∧
        unsignedTx.gas ≤ maxGasLimit ∧
        rawGasPrice ≤ unsignedTx.gasPrice ∧ minGasPriceWei ≤ unsignedTx.gasPrice ∧
        unsignedTx.gasPrice ≤ maxGasPriceWei ∧
        .gasFee 1000000000 230000 230000000000000 = Fee.gasFee unsignedTx.gasPrice unsignedTx.gas
          (unsignedTx.gasPrice * unsignedTx.gas) ∧
        unsignedTx.gasPrice * unsignedTx.gas ≤ 10 ^ 19 := by
  have h : estimateFee delegateViem noShares gweiClient (delegateArgs signerAddress).transaction =
      .ok (.gasFee 1000000000 230000 230000000000000) := by
    decide +kernel
  exact ⟨h, estimateFee_quotes_signed h (.int 1)⟩

end GuardianStake.Bsc
