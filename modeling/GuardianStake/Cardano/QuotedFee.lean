import GuardianStake.Cardano.FeeService

/-!
# Signing for a quoted fee

`estimateFee` selects its inputs for the placeholder fee, `sign` and `prehash` theirs for the fee
that was quoted, which is higher.

* `SigningRequest.FailsShort` — a call that passes its checks and then runs short.
* `WalletView.Affords` — what the wallet holds beyond the placeholder's target pays for the rest of
  the quote.
* `ShowsWallet.not_changeGuardThrows` — what has been selected leaves enough for the change output.
* `estimateFee_signable_iff` — **when a quoted transaction can be signed**: neither selection nor
  the change output fails exactly when the wallet affords the quote.
* `estimateFee_unaffordable` — a wallet that is quoted a fee it cannot pay.
-/

namespace GuardianStake.Cardano

open Sdk

/-! ## The calls, and where they run short -/

/-- A call that signs a transaction: `sign` with two private keys, or `prehash` with the staking
public key. -/
inductive SigningRequest
  | sign (paymentPrivateKey stakingPrivateKey : String)
  | prehash (stakingPublicKey : String)
  deriving DecidableEq, Repr

namespace SigningRequest

variable (sdk : CardanoSdk) (rpc : BlockfrostRpcClient) (transaction : Transaction) (fee : Fee)

/-- What the call checks before it reads the chain. It goes on with a stake key hash and the
fee. -/
def checks : SigningRequest → Result (String × ℤ)
  | .sign paymentPrivateKey stakingPrivateKey => do
      let (_, stakingPrivHex, total) ←
        signChecks sdk { transaction, fee, paymentPrivateKey, stakingPrivateKey }
      return (sdk.keyHash (sdk.toPublic stakingPrivHex), total)
  | .prehash stakingPublicKey => do
      let (stakingPublicKey, total) ← prehashChecks sdk { transaction, fee, stakingPublicKey }
      return (sdk.keyHash stakingPublicKey, total)

/-- The call throws. -/
def Throws : SigningRequest → Prop
  | .sign paymentPrivateKey stakingPrivateKey =>
      ∃ e, Cardano.sign sdk rpc { transaction, fee, paymentPrivateKey, stakingPrivateKey } =
        .error e
  | .prehash stakingPublicKey =>
      ∃ e, Cardano.prehash sdk rpc { transaction, fee, stakingPublicKey } = .error e

end SigningRequest

/-- `selectUtxosPaged` throws on the target of a fee. -/
def SelectionThrows (sdk : CardanoSdk) (rpc : BlockfrostRpcClient) (transaction : Transaction)
    (account : String) (c : ChainState) (total : ℤ) : Prop :=
  ∃ t e, computeSelectionTarget sdk transaction total c.protocolParams c.isStakeKeyRegistered
      account = .ok t ∧
    selectUtxosPaged t.target (walletOptions rpc account c.seedPage) = .error e

/-- The change output of the selected inputs is below the minimum when `buildBody` comes to its
guard. -/
def ChangeGuardThrows (sdk : CardanoSdk) (rpc : BlockfrostRpcClient) (transaction : Transaction)
    (account stakeKeyHashHex : String) (c : ChainState) (total : ℤ) : Prop :=
  ∃ t selected keyDeposit certificates withdrawals,
    computeSelectionTarget sdk transaction total c.protocolParams c.isStakeKeyRegistered account =
      .ok t ∧
    selectUtxosPaged t.target (walletOptions rpc account c.seedPage) = .ok selected ∧
    bigInt c.protocolParams.keyDeposit = .ok keyDeposit ∧
    buildCertificates sdk transaction stakeKeyHashHex c.isStakeKeyRegistered = .ok certificates ∧
    buildWithdrawals sdk transaction stakeKeyHashHex c.rewardsOnChain = .ok withdrawals ∧
    selected.totalLovelaces - t.requiredLovelaces
      + rewardAccountWithdrawal transaction c.rewardsOnChain
      + keyDepositRefund transaction keyDeposit < t.minUtxo

/-- The call passes its checks and the preconditions of its type, and then fails in
`selectUtxosPaged` or at the change output. -/
def SigningRequest.FailsShort (sdk : CardanoSdk) (rpc : BlockfrostRpcClient)
    (transaction : Transaction) (fee : Fee) (request : SigningRequest) : Prop :=
  ∃ stakeKeyHashHex total c, request.checks sdk transaction fee = .ok (stakeKeyHashHex, total) ∧
    resolveChainState sdk rpc transaction (transaction.account.getD "") stakeKeyHashHex = .ok c ∧
    (SelectionThrows sdk rpc transaction (transaction.account.getD "") c total ∨
      ChangeGuardThrows sdk rpc transaction (transaction.account.getD "") stakeKeyHashHex c total)

section short

variable {sdk : CardanoSdk} {rpc : BlockfrostRpcClient} {transaction : Transaction}
  {account stakeKeyHashHex : String} {c : ChainState} {total : ℤ}

/-- Either way of running short ends the body. -/
theorem resolveBody_throws
    (hc : resolveChainState sdk rpc transaction account stakeKeyHashHex = .ok c)
    (hshort : SelectionThrows sdk rpc transaction account c total ∨
      ChangeGuardThrows sdk rpc transaction account stakeKeyHashHex c total) :
    ∃ e, resolveBody sdk rpc transaction account stakeKeyHashHex total = .error e := by
  rcases hshort with ⟨t, e, ht, hselected⟩ |
    ⟨t, selected, keyDeposit, certificates, withdrawals, ht, hselected, hkey, hcertificates,
      hwithdrawals, hchange⟩
  · refine ⟨e, ?_⟩
    simp only [resolveBody, selectInputs, hc, ht, hselected, bind, Except.bind]
  · simp only [resolveBody, selectInputs, buildBody, hc, ht, hselected, hkey, hcertificates,
      hwithdrawals, if_pos hchange, bind, Except.bind]
    exact ⟨_, rfl⟩

/-- A call that fails short throws. -/
theorem SigningRequest.FailsShort.throws {fee : Fee} {request : SigningRequest}
    (h : request.FailsShort sdk rpc transaction fee) : request.Throws sdk rpc transaction fee := by
  obtain ⟨stakeKeyHashHex, total, c, hchecks, hc, hshort⟩ := h
  obtain ⟨e, hbody⟩ := resolveBody_throws hc hshort
  cases request with
  | sign paymentPrivateKey stakingPrivateKey =>
      obtain ⟨⟨paymentPrivHex, stakingPrivHex, total'⟩, hkeys, heq⟩ := bind_eq_ok.mp hchecks
      obtain ⟨rfl, rfl⟩ := Prod.mk.inj (Except.ok.inj heq)
      refine ⟨e, ?_⟩
      rw [sign_eq, hkeys]
      simp only [bind, Except.bind, hbody]
  | prehash stakingPublicKey =>
      obtain ⟨⟨stakingPublicKey', total'⟩, hkey, heq⟩ := bind_eq_ok.mp hchecks
      obtain ⟨rfl, rfl⟩ := Prod.mk.inj (Except.ok.inj heq)
      refine ⟨e, ?_⟩
      rw [prehash_eq, hkey]
      simp only [bind, Except.bind, hbody]

/-- The checks of a call let through the fee it was given and a stake key hash of the account. -/
theorem SigningRequest.checks_eq_ok {fee : Fee} {request : SigningRequest}
    (h : request.checks sdk transaction fee = .ok (stakeKeyHashHex, total)) :
    (∃ txSizeBytes, fee = .utxoFee txSizeBytes total) ∧
      ∃ credentials,
        getBaseAddressCredentials sdk (transaction.account.getD "") = .ok credentials ∧
        sameHex credentials.stakeKeyHashHex stakeKeyHashHex = true := by
  cases request with
  | sign paymentPrivateKey stakingPrivateKey =>
      obtain ⟨⟨paymentPrivHex, stakingPrivHex, total'⟩, hchecks, heq⟩ := bind_eq_ok.mp h
      obtain ⟨rfl, rfl⟩ := Prod.mk.inj (Except.ok.inj heq)
      obtain ⟨-, -, -, hfee, -, credentials, hcredentials, -, hstake⟩ :=
        signChecks_eq_ok.mp hchecks
      exact ⟨hfee, credentials, hcredentials, hstake⟩
  | prehash stakingPublicKey =>
      obtain ⟨⟨stakingPublicKey', total'⟩, hchecks, heq⟩ := bind_eq_ok.mp h
      obtain ⟨rfl, rfl⟩ := Prod.mk.inj (Except.ok.inj heq)
      obtain ⟨-, hfee, -, -, credentials, hcredentials, hstake⟩ := prehashChecks_eq_ok.mp hchecks
      exact ⟨hfee, credentials, hcredentials, hstake⟩

end short

/-! ## When a quoted transaction can be signed -/

/-- What the wallet holds beyond the target for the placeholder pays for the bytes of the mock and
for the tenth on top. -/
def WalletView.Affords (z : CborSizes) (w : WalletView) (transaction : Transaction) : Prop :=
  w.surcharge z transaction ≤ funds w.pages - (w.minFeeB + w.reserve transaction)

instance (z : CborSizes) (w : WalletView) (transaction : Transaction) :
    Decidable (w.Affords z transaction) :=
  inferInstanceAs (Decidable (_ ≤ _))

section signable

variable {sdk : CardanoSdk} {z : CborSizes} {rpc : BlockfrostRpcClient}
  {transaction : Transaction} {w : WalletView} {txSizeBytes : ℕ} {total : ℤ}
  {stakeKeyHashHex : String} {c : ChainState}

/-- The target for the quoted fee is within reach of the funds exactly when the wallet affords
it. -/
theorem WalletView.affords_iff :
    w.Affords z transaction ↔ w.quotedFee z transaction + w.reserve transaction ≤ funds w.pages := by
  rw [Affords, quotedFee]
  omega

/-- What is selected for a target leaves no less than the minimum in the change, whatever flows
back. -/
theorem ShowsWallet.le_change (hshows : ShowsWallet sdk rpc transaction w) {fee : ℤ}
    (hfunds : fee + w.reserve transaction ≤ funds w.pages) :
    w.minUtxo ≤ (w.parts transaction fee (w.flowsBack transaction) w.ttl).change := by
  have hreach := le_sum_coverFrom hshows.wellFormed hfunds
  obtain ⟨_, _, existingAccount, -, -, -, hread⟩ := hshows.account
  obtain ⟨protocolParams, hparams, -, -, hkey, -⟩ := hshows.params
  have hrewards := rewardAccountWithdrawal_nonneg hread
  have hrefund : 0 ≤ keyDepositRefund transaction w.keyDeposit := by
    unfold keyDepositRefund
    split_ifs
    · exact hshows.deposit _ _ hparams hkey
    · exact le_rfl
  simp only [WalletView.reserve] at hreach
  simp only [WalletView.parts, WalletView.spend, WalletView.flowsBack, WalletView.reserve]
  omega

/-- What a signature for a fee selects for, and what it selects. -/
theorem ShowsWallet.selects (hshows : ShowsWallet sdk rpc transaction w)
    (hneeds : needsAccount transaction = true)
    (hparams : rpc.getProtocolParams = .ok c.protocolParams)
    (hstate : c = w.chainState c.protocolParams) (fee : ℤ) :
    computeSelectionTarget sdk transaction fee c.protocolParams c.isStakeKeyRegistered
        (transaction.account.getD "") = .ok (w.target transaction fee) ∧
      ∀ selected, selectUtxosPaged (fee + w.reserve transaction)
          (walletOptions rpc (transaction.account.getD "") c.seedPage) = .ok selected ↔
        0 ≤ fee + w.reserve transaction ∧ fee + w.reserve transaction ≤ funds w.pages ∧
          selected = selectionOf (coverFrom w.pages (fee + w.reserve transaction)) := by
  rw [hstate]
  exact ⟨hshows.computeSelectionTarget_eq hneeds hparams fee,
    fun _ => hshows.selectUtxosPaged_eq_ok hshows.seedPage⟩

/-- The selection fails exactly when the target is beyond the funds. -/
theorem ShowsWallet.selectionThrows_iff (hshows : ShowsWallet sdk rpc transaction w)
    (hneeds : needsAccount transaction = true)
    (hparams : rpc.getProtocolParams = .ok c.protocolParams)
    (hstate : c = w.chainState c.protocolParams) (h0 : 0 ≤ total + w.reserve transaction) :
    SelectionThrows sdk rpc transaction (transaction.account.getD "") c total ↔
      funds w.pages < total + w.reserve transaction := by
  obtain ⟨htarget, hselect⟩ := hshows.selects hneeds hparams hstate total
  constructor
  · rintro ⟨t, e, ht, hselected⟩
    obtain rfl := Except.ok.inj (htarget.symm.trans ht)
    by_contra hfunds
    cases ((hselect _).mpr ⟨h0, not_lt.mp hfunds, rfl⟩).symm.trans hselected
  · intro hshort
    cases hselected : selectUtxosPaged (total + w.reserve transaction)
        (walletOptions rpc (transaction.account.getD "") c.seedPage) with
    | error e => exact ⟨_, e, htarget, hselected⟩
    | ok selected => exact absurd ((hselect _).mp hselected).2.1 (not_le.mpr hshort)

/-- **The guard of the change output stops nothing that has been selected.** -/
theorem ShowsWallet.not_changeGuardThrows (hshows : ShowsWallet sdk rpc transaction w)
    (hneeds : needsAccount transaction = true)
    (hparams : rpc.getProtocolParams = .ok c.protocolParams)
    (hstate : c = w.chainState c.protocolParams) :
    ¬ ChangeGuardThrows sdk rpc transaction (transaction.account.getD "") stakeKeyHashHex c
      total := by
  rintro ⟨t, selected, keyDeposit, -, -, ht, hselected, hkey, -, -, hchange⟩
  obtain ⟨htarget, hselect⟩ := hshows.selects hneeds hparams hstate total
  obtain rfl := Except.ok.inj (htarget.symm.trans ht)
  obtain ⟨-, hfunds, rfl⟩ := (hselect _).mp hselected
  obtain ⟨protocolParams, hparams', -, -, hkey', -⟩ := hshows.params
  obtain rfl := Except.ok.inj (hparams.symm.trans hparams')
  obtain rfl := Except.ok.inj (hkey.symm.trans hkey')
  -- what flows back in can only raise the change above the target's margin
  refine absurd (hshows.le_change hfunds) (not_le.mpr ?_)
  rw [hstate] at hchange
  rw [WalletView.flowsBack, WalletView.parts, WalletView.spend, ← add_assoc]
  exact hchange

/-- **When a quoted transaction can be signed.** For every wallet, chain state and transaction: a
call that signs for the estimated fee, on the chain the fee was estimated on, fails neither in
`selectUtxosPaged` nor at the change output exactly when the wallet affords the quote. -/
theorem estimateFee_signable_iff (hsdk : sdk.Serializes z)
    (hshows : ShowsWallet sdk rpc transaction w)
    (hestimate : estimateFee sdk rpc transaction = .ok (.utxoFee txSizeBytes total))
    {request : SigningRequest}
    (hchecks : request.checks sdk transaction (.utxoFee txSizeBytes total) =
      .ok (stakeKeyHashHex, total))
    (hc : resolveChainState sdk rpc transaction (transaction.account.getD "") stakeKeyHashHex =
      .ok c) :
    ¬ request.FailsShort sdk rpc transaction (.utxoFee txSizeBytes total) ↔
      w.Affords z transaction := by
  obtain ⟨-, credentials, hcredentials, hsame⟩ := SigningRequest.checks_eq_ok hchecks
  have hquote := hshows.estimated hsdk hestimate
  have hneeds := hquote.supported
  obtain ⟨-, htotal⟩ := Fee.utxoFee.inj hquote.fee_eq
  obtain ⟨hparams, hstate⟩ :=
    hshows.chainState_eq hsdk.createRewardAccount hneeds hcredentials hsame hc
  have h0 : 0 ≤ total + w.reserve transaction := by
    linarith [hquote.target_nonneg, hquote.minFeeB_le, htotal]
  have hfails : request.FailsShort sdk rpc transaction (.utxoFee txSizeBytes total) ↔
      funds w.pages < total + w.reserve transaction := by
    rw [← hshows.selectionThrows_iff hneeds hparams hstate h0]
    constructor
    · rintro ⟨stakeKeyHashHex', total', c', hchecks', hc', hshort⟩
      obtain ⟨rfl, rfl⟩ := Prod.mk.inj (Except.ok.inj (hchecks.symm.trans hchecks'))
      obtain rfl : c = c' := Except.ok.inj (hc.symm.trans hc')
      exact hshort.resolve_right (hshows.not_changeGuardThrows hneeds hparams hstate)
    · intro hthrows
      exact ⟨stakeKeyHashHex, total, c, hchecks, hc, Or.inl hthrows⟩
  rw [hfails, not_lt, WalletView.affords_iff, htotal]

end signable

/-! ### Two wallets -/

/-- `sign` with the two keys of the wallet. -/
def walletRequest : SigningRequest := .sign walletPaymentKey.1 walletStakingKey.1

/-- The chain state of the wallet's delegation. -/
def walletChainState (quantity : String) : ChainState where
  protocolParams := mainnetParams
  seedPage := singlePage quantity 1
  ttl := 100007200
  isStakeKeyRegistered := true
  rewardsOnChain := 0

/-- With 10 ADA the delegation can be signed for the fee it is quoted. -/
theorem estimateFee_signable_delegate :
    ¬ walletRequest.FailsShort walletSdk
      (walletRpc mainnetParams [adaUtxo vectorTxHash "10000000"]) walletDelegate
      (.utxoFee 392 189891) := by
  have hestimate : estimateFee walletSdk
      (walletRpc mainnetParams [adaUtxo vectorTxHash "10000000"]) walletDelegate =
        .ok (.utxoFee 392 189891) := by
    decide +kernel
  have hchecks : walletRequest.checks walletSdk walletDelegate (.utxoFee 392 189891) =
      .ok (walletCredentials.stakeKeyHashHex, 189891) := by
    decide +kernel
  have hc : resolveChainState walletSdk
      (walletRpc mainnetParams [adaUtxo vectorTxHash "10000000"]) walletDelegate walletAddress
        walletCredentials.stakeKeyHashHex = .ok (walletChainState "10000000") := by
    decide +kernel
  exact (estimateFee_signable_iff walletSdk_serializes
    (showsWallet_walletView (by decide : isDigits "10000000" = true)) hestimate hchecks hc).mpr
    (by decide +kernel)

/-- What the wallet of 1.14 ADA is told. -/
def insufficientFunds : Thrown :=
  .validation .invalidAmount
    "Insufficient funds: need 1159641 lovelace but spendable ADA-only UTXOs total 1140000."

/-- **A fee can be quoted that cannot be signed.** With 1.14 ADA the estimate selects for the
placeholder of 155 381 lovelace and quotes 189 891; for that fee `sign` and `prehash` ask for
1 159 641 lovelace. -/
theorem estimateFee_unaffordable :
    let rpc := walletRpc mainnetParams [adaUtxo vectorTxHash "1140000"]
    ServesWallet rpc walletAddress (singlePage "1140000") ∧
      estimateFee walletSdk rpc walletDelegate = .ok (.utxoFee 392 189891) ∧
      walletRequest.FailsShort walletSdk rpc walletDelegate (.utxoFee 392 189891) ∧
      sign walletSdk rpc
        { transaction := walletDelegate, fee := .utxoFee 392 189891,
          paymentPrivateKey := walletPaymentKey.1,
          stakingPrivateKey := walletStakingKey.1 } = .error insufficientFunds ∧
      prehash walletSdk rpc
        { transaction := walletDelegate, fee := .utxoFee 392 189891,
          stakingPublicKey := walletStakingKey.2 } = .error insufficientFunds := by
  refine ⟨servesWallet_singlePage (by decide), by decide +kernel, ?_, by decide +kernel,
    by decide +kernel⟩
  exact ⟨walletCredentials.stakeKeyHashHex, 189891, walletChainState "1140000",
    by decide +kernel, by decide +kernel,
    Or.inl ⟨{ requiredLovelaces := 189891, minUtxo := 969750, target := 1159641 },
      insufficientFunds, by decide +kernel, by decide +kernel⟩⟩

end GuardianStake.Cardano
