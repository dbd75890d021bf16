import GuardianStake.Cardano.SigningPaths
import GuardianStake.Cardano.WalletView

/-!
# The fee of a Cardano transaction

`services/fee-service.ts`: the size of a mock made for a placeholder fee, the ledger's linear fee
for that size, and a tenth on top. The signed transaction selects its inputs for the real fee.

* `WalletView.quotedFee` — the fee a wallet is quoted, from its UTXOs and the parameters alone;
  `ShowsWallet.estimated` — **an estimate is that**.
* `WalletView.MockReaches` — the inputs of the mock reach the quote too; `WalletView.TenthPays` —
  others do that the tenth pays for.
* `estimateFee_covers_iff` — **when the estimate covers the ledger's minimum** for what is
  signed: exactly then.
* `estimateFee_tooLow` — a wallet whose rewards cannot be claimed at the estimated fee.
-/

namespace GuardianStake.Cardano

open Sdk Found

/-! ## The code -/

/-- Source: `services/fee-service.ts`, `FEE_BUFFER_PERCENT`. -/
def feeBufferPercent : ℤ := 10

/-- Source: `services/fee-service.ts`, `STAKING_WITNESS_COUNT`. -/
def stakingWitnessCount : ℕ := 2

/-- Source: `services/fee-service.ts`, `PLACEHOLDER_TTL`. -/
def placeholderTtl : ℤ := 200000000

/-- `i.toString(16).padStart(2, "0")`. -/
def fillerByte (i : ℕ) : List Char :=
  let digits := Nat.toDigits 16 i
  List.replicate (2 - digits.length) '0' ++ digits

/-- The mock witness of a given index. -/
def mockWitness (i : ℕ) : TxWitness where
  vkeyHex := String.ofList (List.replicate 32 (fillerByte i)).flatten
  sigHex := String.ofList (List.replicate 64 (fillerByte i)).flatten

/-- Source: `tx/tx-builder.ts`, `buildMockTransaction`. -/
def buildMockTransaction (sdk : CardanoSdk) (params : TxBodyParams) (witnessCount : ℕ) :
    Result SignedTransaction := do
  let body ← buildTransactionBody sdk params
  buildSignedTransaction sdk body ((List.range witnessCount).map mockWitness)

/-- Source: `services/fee-service.ts`, `estimateTxSize`. -/
def estimateTxSize (sdk : CardanoSdk) (transaction : Transaction) (paymentAddress : String)
    (selected : SelectedUtxos) (params : BlockfrostProtocolParams) (feePlaceholder : ℤ)
    (stakeKeyHashHex : String) (isStakeKeyRegistered : Bool) (rewardsOnChain : ℤ) : Result ℕ := do
  let t ← computeSelectionTarget sdk transaction feePlaceholder params isStakeKeyRegistered
    paymentAddress
  let certificates ← buildCertificates sdk transaction stakeKeyHashHex isStakeKeyRegistered
  let withdrawals ← buildWithdrawals sdk transaction stakeKeyHashHex rewardsOnChain
  let rawChange := selected.totalLovelaces - t.requiredLovelaces
  let mock ← buildMockTransaction sdk
    { inputs := selected.inputs
      outputAddress := paymentAddress
      outputLovelaces := if rawChange < t.minUtxo then t.minUtxo else rawChange
      fee := feePlaceholder
      ttl := some placeholderTtl
      certificates := if certificates.isEmpty then none else some certificates
      withdrawals := if withdrawals.isEmpty then none else some withdrawals }
    stakingWitnessCount
  return sdk.txSize mock

/-- Source: `services/fee-service.ts`, `calculateFee`. -/
def calculateFee (txSizeBytes : ℕ) (params : BlockfrostProtocolParams) : Result ℤ := do
  let minFeeA ← parseNonNegativeInteger params.minFeeA "min_fee_a"
  let minFeeB ← parseNonNegativeInteger params.minFeeB "min_fee_b"
  return minFeeA * txSizeBytes + minFeeB

/-- `(baseFee * FEE_BUFFER_PERCENT) / 100n`. -/
def feeBuffer (baseFee : ℤ) : ℤ := (baseFee * feeBufferPercent).tdiv 100

/-- Source: `services/fee-service.ts`, `estimateFee`. An account of length zero counts as
missing. -/
def estimateFee (sdk : CardanoSdk) (rpc : BlockfrostRpcClient) (transaction : Transaction) :
    Result Fee := do
  let paymentAddress := transaction.account.getD ""
  if paymentAddress = "" then
    throw (.validation .invalidAddress
      ("transaction.account (payment address, addr1...) is required for Cardano fee "
        ++ "estimation."))
  checkIfPaymentAddressIsValid sdk paymentAddress
  let credentials ← getBaseAddressCredentials sdk paymentAddress
  let rewardAccount ← buildRewardAccount sdk credentials.stakeKeyHashHex
  let protocolParams ← rpc.getProtocolParams
  let seedPage ← rpc.getUtxos paymentAddress 1 100
  let existingAccount ← rpc.getAccountOrNull rewardAccount
  let (isStakeKeyRegistered, rewardsOnChain) ← readAccount transaction existingAccount
  let feePlaceholder ← parseNonNegativeInteger protocolParams.minFeeB "min_fee_b"
  let t ← computeSelectionTarget sdk transaction feePlaceholder protocolParams
    isStakeKeyRegistered paymentAddress
  let selected ← selectUtxosPaged t.target (walletOptions rpc paymentAddress seedPage)
  let txSizeBytes ← estimateTxSize sdk transaction paymentAddress selected protocolParams
    feePlaceholder credentials.stakeKeyHashHex isStakeKeyRegistered rewardsOnChain
  let baseFee ← calculateFee txSizeBytes protocolParams
  return .utxoFee txSizeBytes (baseFee + feeBuffer baseFee)

/-! ## What an estimate consists of -/

section eqOk

variable {sdk : CardanoSdk} {transaction : Transaction} {account stakeKeyHashHex : String}

/-- The two mock witnesses are distinct. -/
theorem length_dedup_mockWitness :
    ((List.range stakingWitnessCount).map mockWitness).dedup.length = stakingWitnessCount := by
  have hne : mockWitness 0 ≠ mockWitness 1 := by decide +kernel
  have hnodup : [mockWitness 0, mockWitness 1].Nodup := by simp [hne]
  exact congrArg List.length hnodup.dedup

/-- What the size of an estimate is the size of. -/
theorem estimateTxSize_eq_ok {selected : SelectedUtxos} {params : BlockfrostProtocolParams}
    {feePlaceholder : ℤ} {isStakeKeyRegistered : Bool} {rewardsOnChain : ℤ} {txSizeBytes : ℕ}
    (h : estimateTxSize sdk transaction account selected params feePlaceholder stakeKeyHashHex
      isStakeKeyRegistered rewardsOnChain = .ok txSizeBytes) :
    ∃ t certificates withdrawals,
      computeSelectionTarget sdk transaction feePlaceholder params isStakeKeyRegistered account =
        .ok t ∧
      buildCertificates sdk transaction stakeKeyHashHex isStakeKeyRegistered =
        .ok certificates ∧
      buildWithdrawals sdk transaction stakeKeyHashHex rewardsOnChain = .ok withdrawals ∧
      txSizeBytes = sdk.txSize
        { body := FeeParts.body
            { inputs := selected.inputs
              change := max (selected.totalLovelaces - t.requiredLovelaces) t.minUtxo
              fee := feePlaceholder
              ttl := placeholderTtl } account certificates withdrawals
          witnesses := (List.range stakingWitnessCount).map mockWitness } := by
  obtain ⟨t, ht, h⟩ := bind_eq_ok.mp h
  obtain ⟨certificates, hcertificates, h⟩ := bind_eq_ok.mp h
  obtain ⟨withdrawals, hwithdrawals, h⟩ := bind_eq_ok.mp h
  obtain ⟨mock, hmock, h⟩ := bind_eq_ok.mp h
  obtain ⟨body, hbody, hsigned⟩ := bind_eq_ok.mp hmock
  refine ⟨t, certificates, withdrawals, ht, hcertificates, hwithdrawals, ?_⟩
  have hclamp : (if selected.totalLovelaces - t.requiredLovelaces < t.minUtxo then t.minUtxo
      else selected.totalLovelaces - t.requiredLovelaces) =
      max (selected.totalLovelaces - t.requiredLovelaces) t.minUtxo := by
    rw [max_def']
    split_ifs <;> omega
  rw [← Except.ok.inj h, buildSignedTransaction_eq_ok hsigned, buildTransactionBody_eq_ok hbody,
    getD_isEmpty, getD_isEmpty, hclamp]
  rfl

/-- The linear fee of a size. -/
theorem calculateFee_eq_ok {txSizeBytes : ℕ} {params : BlockfrostProtocolParams} {baseFee : ℤ}
    (h : calculateFee txSizeBytes params = .ok baseFee) :
    ∃ a b, params.minFeeA = .int a ∧ params.minFeeB = .int b ∧ 0 ≤ a ∧ 0 ≤ b ∧
      baseFee = a * txSizeBytes + b := by
  obtain ⟨a, ha, h⟩ := bind_eq_ok.mp h
  obtain ⟨b, hb, h⟩ := bind_eq_ok.mp h
  obtain ⟨ha, ha0⟩ := parseNonNegativeInteger_eq_ok.mp ha
  obtain ⟨hb, hb0⟩ := parseNonNegativeInteger_eq_ok.mp hb
  exact ⟨a, b, ha, hb, ha0, hb0, (Except.ok.inj h).symm⟩

/-- **What an estimate is made of**: the reads, the selection for the placeholder, and the fee of the
size. -/
theorem estimateFee_eq_ok {rpc : BlockfrostRpcClient} {fee : Fee}
    (h : estimateFee sdk rpc transaction = .ok fee) :
    ∃ credentials rewardAccount protocolParams seedPage existingAccount isStakeKeyRegistered
        rewardsOnChain feePlaceholder t selected txSizeBytes baseFee,
      getBaseAddressCredentials sdk (transaction.account.getD "") = .ok credentials ∧
      buildRewardAccount sdk credentials.stakeKeyHashHex = .ok rewardAccount ∧
      rpc.getProtocolParams = .ok protocolParams ∧
      rpc.getUtxos (transaction.account.getD "") 1 100 = .ok seedPage ∧
      rpc.getAccountOrNull rewardAccount = .ok existingAccount ∧
      readAccount transaction existingAccount = .ok (isStakeKeyRegistered, rewardsOnChain) ∧
      parseNonNegativeInteger protocolParams.minFeeB "min_fee_b" = .ok feePlaceholder ∧
      computeSelectionTarget sdk transaction feePlaceholder protocolParams isStakeKeyRegistered
        (transaction.account.getD "") = .ok t ∧
      selectUtxosPaged t.target (walletOptions rpc (transaction.account.getD "") seedPage) =
        .ok selected ∧
      estimateTxSize sdk transaction (transaction.account.getD "") selected protocolParams
        feePlaceholder credentials.stakeKeyHashHex isStakeKeyRegistered rewardsOnChain =
          .ok txSizeBytes ∧
      calculateFee txSizeBytes protocolParams = .ok baseFee ∧
      fee = .utxoFee txSizeBytes (baseFee + feeBuffer baseFee) := by
  simp only [estimateFee] at h
  obtain ⟨-, h⟩ := guard_eq_ok.mp h
  obtain ⟨_, -, h⟩ := bind_eq_ok.mp h
  obtain ⟨credentials, hcredentials, h⟩ := bind_eq_ok.mp h
  obtain ⟨rewardAccount, hreward, h⟩ := bind_eq_ok.mp h
  obtain ⟨protocolParams, hparams, h⟩ := bind_eq_ok.mp h
  obtain ⟨seedPage, hseed, h⟩ := bind_eq_ok.mp h
  obtain ⟨existingAccount, hexisting, h⟩ := bind_eq_ok.mp h
  obtain ⟨⟨registered, rewards⟩, hread, h⟩ := bind_eq_ok.mp h
  obtain ⟨feePlaceholder, hplaceholder, h⟩ := bind_eq_ok.mp h
  obtain ⟨t, ht, h⟩ := bind_eq_ok.mp h
  obtain ⟨selected, hselected, h⟩ := bind_eq_ok.mp h
  obtain ⟨txSizeBytes, hsize, h⟩ := bind_eq_ok.mp h
  obtain ⟨baseFee, hbase, h⟩ := bind_eq_ok.mp h
  exact ⟨credentials, rewardAccount, protocolParams, seedPage, existingAccount, registered, rewards,
    feePlaceholder, t, selected, txSizeBytes, baseFee, hcredentials, hreward, hparams, hseed,
    hexisting, hread, hplaceholder, ht, hselected, hsize, hbase, (Except.ok.inj h).symm⟩

/-- The buffer is a tenth, rounded down. -/
theorem feeBuffer_eq {baseFee : ℤ} (h0 : 0 ≤ baseFee) : feeBuffer baseFee = baseFee / 10 := by
  have h10 : 0 ≤ baseFee * feeBufferPercent := mul_nonneg h0 (by decide)
  rw [feeBuffer, Int.tdiv_eq_ediv_of_nonneg h10, feeBufferPercent]
  omega

end eqOk

/-! ## The quote of a wallet -/

namespace WalletView

variable (z : CborSizes) (w : WalletView) (transaction : Transaction)

/-- The parts of the mock: it pays the placeholder, and nothing flows back into its change. -/
def mock : FeeParts := w.parts transaction w.minFeeB 0 placeholderTtl

/-- The bytes of the mock. -/
def mockBytes : ℕ :=
  z.restBytes transaction w.isStakeKeyRegistered w.rewardsOnChain
    + z.partsSize (w.mock transaction) stakingWitnessCount

/-- What the quote asks beyond the placeholder: the price of the mock's bytes, and a tenth of the
ledger's minimum for the mock. -/
def surcharge : ℤ :=
  w.minFeeA * w.mockBytes z transaction
    + (w.minFeeA * w.mockBytes z transaction + w.minFeeB) / 10

/-- The fee that is quoted. -/
def quotedFee : ℤ := w.minFeeB + w.surcharge z transaction

end WalletView

/-- What an estimate says about the wallet. -/
structure Estimated (z : CborSizes) (w : WalletView) (transaction : Transaction) (fee : Fee) :
    Prop where
  fee_eq : fee = .utxoFee (w.mockBytes z transaction) (w.quotedFee z transaction)
  supported : needsAccount transaction = true
  minFeeA_nonneg : 0 ≤ w.minFeeA
  minFeeB_nonneg : 0 ≤ w.minFeeB
  target_nonneg : 0 ≤ w.minFeeB + w.reserve transaction
  funded : w.minFeeB + w.reserve transaction ≤ funds w.pages

section estimated

variable {sdk : CardanoSdk} {z : CborSizes} {rpc : BlockfrostRpcClient}
  {transaction : Transaction} {w : WalletView} {fee : Fee}

/-- A wallet that an estimate has been made for is shown with its terms. -/
theorem ServesWallet.exists_showsWallet {pages : ℕ → List BlockfrostUtxo}
    (hserves : ServesWallet rpc (transaction.account.getD "") pages)
    (h : estimateFee sdk rpc transaction = .ok fee) {latestBlock : BlockfrostBlock}
    (hblock : rpc.getLatestBlock = .ok latestBlock) :
    ∃ w, w.pages = pages ∧ ShowsWallet sdk rpc transaction w := by
  obtain ⟨credentials, rewardAccount, protocolParams, _, existingAccount, registered, rewards, _, t,
    _, txSizeBytes, baseFee, hcredentials, hreward, hparams, -, hexisting, hread, -, ht, -, -, hbase,
    -⟩ := estimateFee_eq_ok h
  obtain ⟨a, b, ha, hb, -⟩ := calculateFee_eq_ok hbase
  obtain ⟨keyDeposit, hkey, hmin, -⟩ := computeSelectionTarget_eq_ok.mp ht
  exact ⟨{ pages, minFeeA := a, minFeeB := b, keyDeposit, minUtxo := t.minUtxo,
           isStakeKeyRegistered := registered, rewardsOnChain := rewards,
           ttl := latestBlock.slot + ttlValiditySlots }, rfl,
    { toServesWallet := hserves
      params := ⟨protocolParams, hparams, ha, hb, hkey, hmin⟩
      account := ⟨credentials, rewardAccount, existingAccount, hcredentials, hreward, hexisting,
        hread⟩
      slot := ⟨latestBlock, hblock, rfl⟩ }⟩

/-- **An estimate is the quote of the wallet**, which reaches the target for the placeholder. -/
theorem ShowsWallet.estimated (hshows : ShowsWallet sdk rpc transaction w)
    (hsdk : sdk.Serializes z) (h : estimateFee sdk rpc transaction = .ok fee) :
    Estimated z w transaction fee := by
  obtain ⟨credentials, rewardAccount, existingAccount, hcredentials, hreward, hexisting, hread⟩ :=
    hshows.account
  obtain ⟨protocolParams, hparams, ha, hb, -, -⟩ := hshows.params
  obtain ⟨_, _, _, seedPage, _, _, _, feePlaceholder, t, selected, txSizeBytes, baseFee,
    hcredentials', hreward', hparams', hseed, hexisting', hread', hplaceholder, ht, hselected, hsize,
    hbase, rfl⟩ := estimateFee_eq_ok h
  -- the estimate has read what the client reports
  obtain rfl := Except.ok.inj (hcredentials.symm.trans hcredentials')
  obtain rfl := Except.ok.inj (hreward.symm.trans hreward')
  obtain rfl := Except.ok.inj (hparams.symm.trans hparams')
  obtain rfl := Except.ok.inj (hexisting.symm.trans hexisting')
  obtain ⟨rfl, rfl⟩ := Prod.mk.inj (Except.ok.inj (hread.symm.trans hread'))
  obtain ⟨hplaceholder, hb0⟩ := parseNonNegativeInteger_eq_ok.mp hplaceholder
  obtain rfl : w.minFeeB = feePlaceholder := Number.int.inj (hb.symm.trans hplaceholder)
  obtain ⟨hneeds, rfl⟩ := hshows.target_eq hparams ht
  obtain ⟨h0, hfunds, rfl⟩ := (hshows.selectUtxosPaged_eq_ok hseed).mp hselected
  obtain ⟨t', certificates, withdrawals, ht', hcertificates, hwithdrawals, hsize⟩ :=
    estimateTxSize_eq_ok hsize
  obtain ⟨-, rfl⟩ := hshows.target_eq hparams ht'
  obtain ⟨a, b, ha', hb', ha0, -, rfl⟩ := calculateFee_eq_ok hbase
  obtain rfl : w.minFeeA = a := Number.int.inj (ha.symm.trans ha')
  obtain rfl : w.minFeeB = b := Number.int.inj (hb.symm.trans hb')
  -- the selection reaches its target, so that the change need not be raised to the minimum
  have hreach := le_sum_coverFrom hshows.wellFormed hfunds
  have hchange : max
      (((coverFrom w.pages (w.minFeeB + w.reserve transaction)).map Entry.lovelaces).sum
        - (w.minFeeB + depositDue transaction w.isStakeKeyRegistered w.keyDeposit)) w.minUtxo =
      (w.mock transaction).change := by
    rw [WalletView.mock, WalletView.parts, WalletView.spend, add_zero]
    simp only [WalletView.target, WalletView.reserve] at hreach ⊢
    exact max_eq_left (by omega)
  have hbytes : txSizeBytes = w.mockBytes z transaction := by
    rw [hsize, hsdk.txSize, z.total_eq_restSize_add_partsSize, length_dedup_mockWitness,
      restSize_eq z hcertificates hwithdrawals]
    simp only [selectionOf, WalletView.target, hchange]
    rfl
  have hbase0 : 0 ≤ w.minFeeA * (txSizeBytes : ℤ) + w.minFeeB :=
    add_nonneg (mul_nonneg ha0 (Int.natCast_nonneg _)) hb0
  refine ⟨?_, hneeds, ha0, hb0, h0, hfunds⟩
  rw [feeBuffer_eq hbase0, hbytes, WalletView.quotedFee, WalletView.surcharge]
  congr 1
  ring

/-- The placeholder is no higher than the fee that is quoted. -/
theorem Estimated.minFeeB_le (h : Estimated z w transaction fee) :
    w.minFeeB ≤ w.quotedFee z transaction := by
  have hsize : 0 ≤ w.minFeeA * (w.mockBytes z transaction : ℤ) :=
    mul_nonneg h.minFeeA_nonneg (Int.natCast_nonneg _)
  have hb0 := h.minFeeB_nonneg
  rw [WalletView.quotedFee, WalletView.surcharge]
  omega

end estimated

/-! ## When the estimate covers the minimum -/

/-- A signed transaction for a fee: one that `sign` returns, or the body of a `prehash` with two
witnesses. -/
inductive SignsTo (sdk : CardanoSdk) (rpc : BlockfrostRpcClient) (transaction : Transaction)
    (fee : Fee) : SignedTransaction → Prop
  | sign {signed : SignedTransaction} (paymentPrivateKey stakingPrivateKey : String)
      (h : sign sdk rpc { transaction, fee, paymentPrivateKey, stakingPrivateKey } = .ok signed) :
      SignsTo sdk rpc transaction fee signed
  | prehash {hash : String} {body : TxBody} (stakingPublicKey : String)
      (h : prehash sdk rpc { transaction, fee, stakingPublicKey } = .ok (hash, body))
      (payment staking : TxWitness) :
      SignsTo sdk rpc transaction fee { body, witnesses := [payment, staking] }

namespace WalletView

variable (z : CborSizes) (w : WalletView) (transaction : Transaction)

/-- The inputs of the mock leave above their target what the quote asks beyond it: no further input
is needed for the quote. -/
def MockReaches : Prop :=
  w.surcharge z transaction ≤
    ((coverFrom w.pages (w.minFeeB + w.reserve transaction)).map Entry.lovelaces).sum
      - (w.minFeeB + w.reserve transaction)

instance : Decidable (w.MockReaches z transaction) := inferInstanceAs (Decidable (_ ≤ _))

/-- The bytes that a transaction which pays the quote from some inputs has beyond the mock: for the
inputs, the change, the fee, the TTL and so many distinct witnesses. -/
def growth (inputs : List Entry) (witnesses : ℕ) : ℤ :=
  (z.partsSize (w.spend transaction inputs (w.quotedFee z transaction) (w.flowsBack transaction)
      w.ttl) witnesses : ℤ)
    - z.partsSize (w.mock transaction) stakingWitnessCount

/-- A tenth of the ledger's minimum for the mock pays for the growth. -/
def PaysGrowth (inputs : List Entry) (witnesses : ℕ) : Prop :=
  10 * (w.minFeeA * w.growth z transaction inputs witnesses) ≤
    w.minFeeA * w.mockBytes z transaction + w.minFeeB

/-- The pure-ADA UTXOs on the pages up to the first that reaches the quote, largest first. -/
def offered : List Entry :=
  adaEntries (pagesRead w.pages (stopPage w.pages
    (w.quotedFee z transaction + w.reserve transaction) defaultUtxoPageSize defaultMaxUtxoPages))

/-- Some of the largest of these reach the quote, and the tenth pays for what they add. -/
def TenthPays (witnesses : ℕ) : Prop :=
  ∃ inputs, inputs <+: w.offered z transaction ∧
    w.quotedFee z transaction + w.reserve transaction ≤ (inputs.map Entry.lovelaces).sum ∧
    w.PaysGrowth z transaction inputs witnesses

end WalletView

section covers

variable {sdk : CardanoSdk} {z : CborSizes} {rpc : BlockfrostRpcClient}
  {transaction : Transaction} {w : WalletView} {txSizeBytes : ℕ} {total : ℤ}
  {signed : SignedTransaction} {witnesses : ℕ} {fee : Fee}

/-- Either path resolves a body for its fee, under a stake key hash that matches the account, and
puts two witnesses to it. -/
theorem SignsTo.exists_resolveBody
    (h : SignsTo sdk rpc transaction (.utxoFee txSizeBytes total) signed) :
    ∃ credentials stakeKeyHashHex,
      getBaseAddressCredentials sdk (transaction.account.getD "") = .ok credentials ∧
      sameHex credentials.stakeKeyHashHex stakeKeyHashHex = true ∧
      resolveBody sdk rpc transaction (transaction.account.getD "") stakeKeyHashHex
        total = .ok signed.body ∧
      signed.witnesses.length = stakingWitnessCount := by
  cases h with
  | sign paymentPrivateKey stakingPrivateKey h =>
      rw [sign_eq] at h
      obtain ⟨⟨paymentPrivHex, stakingPrivHex, total'⟩, hchecks, hresolve⟩ := bind_eq_ok.mp h
      obtain ⟨body, hbody, hbuild⟩ := bind_eq_ok.mp hresolve
      obtain ⟨-, -, -, ⟨_, hfee⟩, -, credentials, hcredentials, -, hstake⟩ :=
        signChecks_eq_ok.mp hchecks
      obtain ⟨-, rfl⟩ := Fee.utxoFee.inj hfee
      refine ⟨credentials, _, hcredentials, hstake, ?_⟩
      rw [buildSignedTransaction_eq_ok hbuild]
      exact ⟨hbody, rfl⟩
  | prehash stakingPublicKey h payment staking =>
      rw [prehash_eq] at h
      obtain ⟨⟨stakingPublicKey', total'⟩, hchecks, hresolve⟩ := bind_eq_ok.mp h
      obtain ⟨body, hbody, hhash⟩ := bind_eq_ok.mp hresolve
      obtain ⟨-, ⟨_, hfee⟩, -, -, credentials, hcredentials, hstake⟩ :=
        prehashChecks_eq_ok.mp hchecks
      obtain ⟨-, rfl⟩ := Fee.utxoFee.inj hfee
      obtain ⟨-, rfl⟩ := Prod.mk.inj (Except.ok.inj hhash)
      exact ⟨credentials, _, hcredentials, hstake, hbody, rfl⟩

/-- What is signed for the quoted fee has the bytes of the mock and what it has grown by with the
inputs that cover the quote, which is within the funds. -/
theorem SignsTo.txSize_eq
    (hsigned : SignsTo sdk rpc transaction (.utxoFee txSizeBytes total) signed)
    (hsdk : sdk.Serializes z) (hshows : ShowsWallet sdk rpc transaction w)
    (hneeds : needsAccount transaction = true) (htotal : total = w.quotedFee z transaction) :
    w.quotedFee z transaction + w.reserve transaction ≤ funds w.pages ∧
      (sdk.txSize signed : ℤ) = w.mockBytes z transaction + w.growth z transaction
        (coverFrom w.pages (w.quotedFee z transaction + w.reserve transaction))
        signed.witnesses.dedup.length := by
  obtain ⟨credentials, stakeKeyHashHex, hcredentials, hsame, hbody, -⟩ :=
    hsigned.exists_resolveBody
  obtain ⟨hfunds, certificates, withdrawals, hcertificates, hwithdrawals, hbodyEq⟩ :=
    hshows.body_eq hsdk.createRewardAccount hneeds hcredentials hsame hbody
  rw [htotal] at hfunds hbodyEq
  refine ⟨hfunds, ?_⟩
  rw [hsdk.txSize, WalletView.mockBytes, WalletView.growth,
    ← restSize_eq z hcertificates hwithdrawals]
  have hsize : z.total signed = z.restSize (transaction.account.getD "") certificates withdrawals
      + z.partsSize (w.parts transaction (w.quotedFee z transaction) (w.flowsBack transaction)
        w.ttl) signed.witnesses.dedup.length := by
    rw [← z.total_eq_restSize_add_partsSize, ← hbodyEq]
  rw [hsize, WalletView.parts]
  push_cast
  ring

/-- The quote pays for the mock and a growth exactly when the tenth pays for the growth. -/
theorem WalletView.le_quotedFee_iff {inputs : List Entry} :
    w.minFeeA * (w.mockBytes z transaction + w.growth z transaction inputs witnesses) + w.minFeeB ≤
        w.quotedFee z transaction ↔
      w.PaysGrowth z transaction inputs witnesses := by
  rw [mul_add, PaysGrowth, quotedFee, surcharge]
  omega

/-! ### Short of further inputs -/

/-- Short of further inputs a signed transaction outgrows the mock by twenty bytes at most: its
change, its fee and its TTL may be wider. -/
theorem partsSize_le (hz : z.Encodes) {p q : FeeParts} (httl : q.ttl = placeholderTtl)
    (hinputs : p.inputs = q.inputs) (hwitnesses : witnesses ≤ stakingWitnessCount) :
    z.partsSize p witnesses ≤ z.partsSize q stakingWitnessCount + 20 := by
  have hwidth (n : ℤ) : 1 ≤ z.intSize n ∧ z.intSize n ≤ 9 := by
    rw [hz.intSize]
    exact ⟨cborUintSize_pos n, cborUintSize_le n⟩
  have hfive : z.intSize q.ttl = 5 := by
    rw [hz.intSize, httl]
    rfl
  have hmul : z.witnessSize * witnesses ≤ z.witnessSize * stakingWitnessCount :=
    Nat.mul_le_mul_left _ hwitnesses
  have hchange := (hwidth p.change).2
  have hchange' := (hwidth q.change).1
  have hfee := (hwidth p.fee).2
  have hfee' := (hwidth q.fee).1
  have httl' := (hwidth p.ttl).2
  simp only [CborSizes.partsSize, hinputs]
  omega

/-- The mock has 200 bytes of witnesses. -/
theorem WalletView.le_mockBytes (hz : z.Encodes) (w : WalletView) (transaction : Transaction) :
    200 ≤ w.mockBytes z transaction := by
  have hwitness := hz.witnessSize
  rw [mockBytes, CborSizes.partsSize, stakingWitnessCount]
  omega

/-- When the inputs of the mock reach the quote they are those that cover it. -/
theorem Estimated.coverFrom_eq (hquote : Estimated z w transaction fee)
    (hwf : ∀ p, ∀ u ∈ w.pages p, u.WellFormed) (hreach : w.MockReaches z transaction) :
    coverFrom w.pages (w.quotedFee z transaction + w.reserve transaction) =
      coverFrom w.pages (w.minFeeB + w.reserve transaction) := by
  rw [WalletView.MockReaches] at hreach
  refine Cardano.coverFrom_eq hwf (by linarith [hquote.minFeeB_le]) ?_
  rw [WalletView.quotedFee]
  linarith

/-- The tenth pays for wider integers. -/
theorem Estimated.paysGrowth_of_reach (hquote : Estimated z w transaction fee) (hz : z.Encodes)
    (hwf : ∀ p, ∀ u ∈ w.pages p, u.WellFormed) (hwitnesses : witnesses ≤ stakingWitnessCount)
    (hreach : w.MockReaches z transaction) :
    w.PaysGrowth z transaction
      (coverFrom w.pages (w.quotedFee z transaction + w.reserve transaction)) witnesses := by
  have ha0 := hquote.minFeeA_nonneg
  have hb0 := hquote.minFeeB_nonneg
  rw [hquote.coverFrom_eq hwf hreach]
  have hgrowth : w.growth z transaction
      (coverFrom w.pages (w.minFeeB + w.reserve transaction)) witnesses ≤ 20 := by
    have hparts := partsSize_le hz (p := w.spend transaction
      (coverFrom w.pages (w.minFeeB + w.reserve transaction)) (w.quotedFee z transaction)
      (w.flowsBack transaction) w.ttl) (q := w.mock transaction) rfl rfl hwitnesses
    rw [WalletView.growth]
    omega
  have hmock : (200 : ℤ) ≤ w.mockBytes z transaction := by
    exact_mod_cast w.le_mockBytes hz transaction
  calc 10 * (w.minFeeA * w.growth z transaction _ witnesses)
      ≤ 10 * (w.minFeeA * 20) := by gcongr
    _ = w.minFeeA * 200 := by ring
    _ ≤ w.minFeeA * w.mockBytes z transaction + w.minFeeB := by
        linarith [mul_le_mul_of_nonneg_left hmock ha0]

/-! ### With further inputs -/

/-- Any more inputs make a transaction grow by more. -/
theorem WalletView.growth_mono (hz : z.Encodes) {inputs inputs' : List Entry}
    (hfewer : inputs <+: inputs') (hpos : ∀ e ∈ inputs', 0 < e.lovelaces) :
    w.growth z transaction inputs witnesses ≤ w.growth z transaction inputs' witnesses := by
  have hinputs : z.inputsSize (inputs.map fun e => e.utxo.toInput) ≤
      z.inputsSize (inputs'.map fun e => e.utxo.toInput) :=
    CborSizes.inputsSize_mono hz (List.map_subset _ hfewer.subset)
  have hsum : (inputs.map Entry.lovelaces).sum ≤ (inputs'.map Entry.lovelaces).sum :=
    (hfewer.sublist.map _).sum_le_sum (List.forall_mem_map.mpr fun e he => (hpos e he).le)
  have hchange (c : ℤ) : z.intSize ((inputs.map Entry.lovelaces).sum - c) ≤
      z.intSize ((inputs'.map Entry.lovelaces).sum - c) := by
    rw [hz.intSize]
    exact cborUintSize_mono (by omega)
  have hchange := hchange (w.quotedFee z transaction
    + depositDue transaction w.isStakeKeyRegistered w.keyDeposit - w.flowsBack transaction)
  simp only [← sub_add] at hchange
  simp only [growth, CborSizes.partsSize, spend]
  omega

/-- **Some inputs reach the quote and are paid for exactly when those that cover it are paid
for**: these are the fewest. -/
theorem Estimated.tenthPays_iff (hquote : Estimated z w transaction fee) (hz : z.Encodes)
    (hwf : ∀ p, ∀ u ∈ w.pages p, u.WellFormed)
    (hfunds : w.quotedFee z transaction + w.reserve transaction ≤ funds w.pages) :
    w.TenthPays z transaction witnesses ↔
      w.PaysGrowth z transaction
        (coverFrom w.pages (w.quotedFee z transaction + w.reserve transaction)) witnesses := by
  constructor
  · rintro ⟨inputs, hlargest, hreach, hpays⟩
    have hfewest : coverFrom w.pages (w.quotedFee z transaction + w.reserve transaction) <+:
        inputs :=
      cover_isPrefix_of_reaches 0 hlargest (by rw [zero_add]; exact hreach)
    have hgrowth : w.growth z transaction
          (coverFrom w.pages (w.quotedFee z transaction + w.reserve transaction)) witnesses ≤
        w.growth z transaction inputs witnesses :=
      WalletView.growth_mono hz hfewest fun e he =>
        lovelaces_pos_of_mem_adaEntries (hlargest.subset he)
    have hcost := mul_le_mul_of_nonneg_left hgrowth hquote.minFeeA_nonneg
    rw [WalletView.PaysGrowth] at hpays ⊢
    linarith
  · intro hpays
    exact ⟨_, cover_isPrefix _ _, le_sum_coverFrom hwf hfunds, hpays⟩

end covers

/-! ### Two estimates -/

/-- The bytes a certificate takes up. -/
def CertificateKind.size : CertificateKind → ℕ
  | .stakeRegistration => 34
  | .stakeDeregistration => 34
  | .stakeDelegation => 64

/-- The sizes of the pieces on mainnet, for outputs at base addresses: maps and arrays with their
headers, hashes of 28 and 32 bytes, keys of 32 and signatures of 64. -/
def cborSizes : CborSizes where
  fixedSize := fun shape =>
    11 + 60 * shape.addresses.length + (if shape.hasTtl then 1 else 0)
      + (if shape.certificates.isEmpty then 0
        else 2 + (shape.certificates.map CertificateKind.size).sum)
      + (if shape.withdrawals = 0 then 0 else 2 + 31 * shape.withdrawals)
  witnessSize := 101
  setSize := fun n => cborUintSize n
  inputSize := fun input => 35 + cborUintSize input.index
  intSize := cborUintSize

/-- The base address of two keys. -/
def walletAddress : String :=
  "addr1q8zx3ulfhwq8y2us7jq6mdauc74tz3amlgjaklcyfpgpumdah8qadmw0j7sv28jecu6nztqvey5m7tjgkjuh6e5wjs"
    ++ "yqdtcp6a"

/-- Its payment key, private and public. -/
def walletPaymentKey : String × String :=
  ("9d61b19deffd5a60ba844af492ec2cc44449c5697b326919703bac031cae3d55",
    "700e2ce7c4b674427eab27ba820bcf6f0faebe68e09fe8564292114e41dc6a41")

/-- Its staking key, private and public. -/
def walletStakingKey : String × String :=
  ("4ccd089b28ff96da9db6c346ec114e0f5b8a319f35aba624da8cf6ed4d0bd6d1",
    "30cfdaa846b8b8f43eb34484bbd7d60437d9d6cb1603634bbb6b7b8106640f65")

/-- The key hashes in that address. -/
def walletCredentials : BaseCredentials where
  paymentKeyHashHex := "c468f3e9bb80722b90f481adb7bcc7aab147bbfa25db7f0448501e6d"
  stakeKeyHashHex := "bdb9c1d6edcf97a0c51e59c735312c0cc929bf2e48b4b97d668e9408"

/-- Its stake address. -/
def walletStakeAddress : String := "stake1ux7mnswkah8e0gx9revuwdf39sxvj2dl9eytfwtav68fgzq8eqqrk"

/-- The hashes of the two bodies below, told apart by their fees. -/
def walletBodyHash (body : TxBody) : String :=
  if body.fee = 17424 then "80aac669adec2ce30941e3172268088a751df0ebb2e25bd4105db62b596d8b00"
  else "55b5c9562b6853957c4da32adeb5e20cf7393792fd917f97396776762f496ede"

/-- The signatures of the first of these hashes. -/
def walletSign (privateKey _message : String) : String :=
  if privateKey = walletPaymentKey.1 then
    "054806bafa8129f21bdf76f27296ce7c3c28bd8ad54060fc69003374fdfe9207"
      ++ "7e7583a912ab357d9a9c2d2f4c9bda61916db21995fa070f3ea89e266f459b08"
  else
    "e560c91d7e377881c660bf9a316df7531a34e8dc6c3ea20ad5623c3da32691a3"
      ++ "b27fdaf8e56321c3287735eef06d20563e52a8a22f77532af4c69f7d35f16a0e"

/-- The external SDK on that wallet. -/
def walletSdk : CardanoSdk :=
  { vectorSdk with
    isPaymentAddress := fun value => value = walletAddress
    isRewardAccount := fun value => value = walletStakeAddress
    parseAddress := fun value =>
      if value = walletAddress then
        some { type := .base, isMainnet := true, asBase := some walletCredentials }
      else none
    createRewardAccount := fun keyHash =>
      if sameHex keyHash walletCredentials.stakeKeyHashHex then walletStakeAddress else ""
    toPublic := fun privateKey =>
      if privateKey = walletPaymentKey.1 then walletPaymentKey.2 else walletStakingKey.2
    keyHash := fun publicKey =>
      if publicKey = walletPaymentKey.2 then walletCredentials.paymentKeyHashHex
      else walletCredentials.stakeKeyHashHex
    sign := walletSign
    bodyHash := walletBodyHash
    txSize := cborSizes.total }

/-- Its transactions are put together from pieces of these sizes. -/
theorem walletSdk_serializes : walletSdk.Serializes cborSizes := by
  refine ⟨fun _ => rfl, fun h h' hsame => ?_⟩
  have heq : h.toList.map Char.toLower = h'.toList.map Char.toLower := of_decide_eq_true hsame
  simp [walletSdk, sameHex, heq]

/-- These sizes are what CBOR says of them. -/
theorem encodes_cborSizes : cborSizes.Encodes where
  intSize := rfl
  setSize := fun _ _ h => cborUintSize_mono (Int.ofNat_le.mpr h)
  witnessSize := by decide

/-- A chain on which the stake key is registered and has one ADA of rewards. -/
def walletRpc (protocolParams : BlockfrostProtocolParams) (utxos : List BlockfrostUtxo) :
    BlockfrostRpcClient where
  getProtocolParams := .ok protocolParams
  getUtxos := fun _ page _ => .ok (if page = 1 then utxos else [])
  getLatestBlock := .ok { slot := 100000000 }
  getAccountOrNull := fun stakeAddress =>
    .ok (if stakeAddress = walletStakeAddress then
      some { active := true, withdrawableAmount := "1000000" }
    else none)

/-- A delegation at mainnet's parameters. -/
def walletDelegate : Transaction :=
  .delegate { chain := cardanoMainnet, amount := 5000000, account := some walletAddress } false
    (some (.operatorAddress vectorPoolId)) none

/-- The pages of a wallet with a single UTXO. -/
def singlePage (quantity : String) (p : ℕ) : List BlockfrostUtxo :=
  if p = 1 then [adaUtxo vectorTxHash quantity] else []

/-- A wallet with a single UTXO, at mainnet's parameters. -/
def walletView (quantity : String) : WalletView where
  pages := singlePage quantity
  minFeeA := 44
  minFeeB := 155381
  keyDeposit := 2000000
  minUtxo := 969750
  isStakeKeyRegistered := true
  rewardsOnChain := 0
  ttl := 100007200

/-- The chain serves that page. -/
theorem servesWallet_singlePage {quantity : String} (h : isDigits quantity = true) :
    ServesWallet (walletRpc mainnetParams [adaUtxo vectorTxHash quantity]) walletAddress
      (singlePage quantity) := by
  refine ⟨fun p _ => rfl, fun p u hu => ?_, ?_⟩
  · unfold singlePage at hu
    split_ifs at hu
    · obtain rfl := List.mem_singleton.mp hu
      exact fun a ha => List.mem_singleton.mp ha ▸ h
    · cases hu
  · rintro protocolParams keyDeposit hparams hkey
    obtain rfl : mainnetParams = protocolParams := Except.ok.inj hparams
    have h2 : bigInt mainnetParams.keyDeposit = .ok 2000000 := by decide
    rw [← Except.ok.inj (h2.symm.trans hkey)]
    decide

/-- The client and the chain report that wallet. -/
theorem showsWallet_walletView {quantity : String} (h : isDigits quantity = true) :
    ShowsWallet walletSdk (walletRpc mainnetParams [adaUtxo vectorTxHash quantity]) walletDelegate
      (walletView quantity) where
  toServesWallet := servesWallet_singlePage h
  params := by
    have hkey : bigInt mainnetParams.keyDeposit = .ok 2000000 := by decide
    have hmin : minUtxoFor walletSdk walletAddress mainnetParams = .ok 969750 := by decide +kernel
    exact ⟨mainnetParams, rfl, rfl, rfl, hkey, hmin⟩
  account := by
    have hread : readAccount walletDelegate
        (some { active := true, withdrawableAmount := "1000000" }) = .ok (true, 0) := by
      decide
    exact ⟨walletCredentials, walletStakeAddress, _, by decide +kernel, by decide +kernel, rfl,
      hread⟩
  slot := ⟨_, rfl, rfl⟩

/-- The body of that delegation from a single UTXO of 10 ADA. -/
def walletDelegateBody : TxBody where
  inputs := [{ txHashHex := vectorTxHash, index := 0 }]
  outputs := [{ address := walletAddress, coins := 9810109 }]
  fee := 189891
  invalidHereafter := some 100007200
  certificates := [.stakeDelegation walletCredentials.stakeKeyHashHex
    "0f292fcaa02b8b2f9b3c8f9fd8e0bb21abedb692a6d5058df3ef2735"]
  withdrawals := []

/-- A claim of that wallet's rewards. -/
def walletClaim : Transaction :=
  .claimRewards { chain := cardanoMainnet, amount := 500000, account := some walletAddress } none

/-- Mainnet's parameters without a constant fee. -/
def noConstantFee : BlockfrostProtocolParams := { mainnetParams with minFeeB := .int 0 }

/-- The UTXOs of a wallet that covers the placeholder fee with one of them and the estimated fee
with both. -/
def tightUtxos : List BlockfrostUtxo :=
  [adaUtxo "98594acb5f8581bb21c7c1cd79793bac073c3d742c34e3eb0750db54faaa783a" "970000",
    adaUtxo "d9acf06047c4f6fb0973213cb1b4ce2906fe03c38e6d684137bb7107f93014cb" "970000"]

end GuardianStake.Cardano
