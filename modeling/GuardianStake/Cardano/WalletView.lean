import GuardianStake.Cardano.PagedSelection
import GuardianStake.Cardano.SerializedSize

/-!
# What a wallet pays a fee with

Both services select inputs for a target: the fee, the deposit that is due and the minimum of the
change output. Here the selections are read off the wallet itself.

* `WalletView` — a wallet and the terms it transacts on; `ShowsWallet` says that the client and
  the chain report them.
* `ServesWallet.selectUtxosPaged_eq_ok` — **what is selected for a target**, from the pages alone.
* `WalletView.parts` — the parts of a transaction that depend on the fee it pays.
* `ShowsWallet.body_eq` — either signing path builds a body with these parts.
-/

namespace GuardianStake.Cardano

open Sdk Found

/-! ## Targets -/

/-- The deposit a transaction pays: one for a delegation of a key that is not registered. -/
def depositDue (transaction : Transaction) (isStakeKeyRegistered : Bool) (keyDeposit : ℤ) : ℤ :=
  if (transaction.type = .delegate ∨ transaction.type = .redelegate) ∧ !isStakeKeyRegistered then
    keyDeposit
  else 0

section target

variable {sdk : CardanoSdk} {transaction : Transaction}

/-- What the types whose account is read require. -/
theorem computeRequiredLovelaces_eq (hneeds : needsAccount transaction = true)
    (fee keyDeposit : ℤ) (registered : Bool) :
    computeRequiredLovelaces transaction fee keyDeposit registered =
      .ok (fee + depositDue transaction registered keyDeposit) := by
  cases transaction with
  | delegate | redelegate => cases registered <;> rfl
  | undelegate | claimRewards => simp [computeRequiredLovelaces, depositDue, Transaction.type]
  | claimDelegate | vote => cases hneeds

/-- A target that can be computed for one fee can be computed for any. -/
theorem computeSelectionTarget_isOk {fee : ℤ} {params : BlockfrostProtocolParams}
    {registered : Bool} {account : String} {t : SelectionTarget}
    (h : computeSelectionTarget sdk transaction fee params registered account = .ok t) :
    ∃ keyDeposit, bigInt params.keyDeposit = .ok keyDeposit ∧
      minUtxoFor sdk account params = .ok t.minUtxo ∧
      ∀ fee', computeSelectionTarget sdk transaction fee' params registered account = .ok
        { requiredLovelaces := fee' + depositDue transaction registered keyDeposit
          minUtxo := t.minUtxo
          target := fee' + depositDue transaction registered keyDeposit + t.minUtxo } := by
  obtain ⟨keyDeposit, hkey, hmin, hrequired, -⟩ := computeSelectionTarget_eq_ok.mp h
  refine ⟨keyDeposit, hkey, hmin, fun fee' => computeSelectionTarget_eq_ok.mpr ?_⟩
  exact ⟨keyDeposit, hkey, hmin,
    computeRequiredLovelaces_eq (needsAccount_of_computeRequiredLovelaces hrequired) _ _ _, rfl⟩

/-- The rewards a transaction withdraws are not negative. -/
theorem rewardAccountWithdrawal_nonneg {existingAccount : Option BlockfrostAccount}
    {registered : Bool} {rewardsOnChain : ℤ}
    (h : readAccount transaction existingAccount = .ok (registered, rewardsOnChain)) :
    0 ≤ rewardAccountWithdrawal transaction rewardsOnChain := by
  unfold rewardAccountWithdrawal
  split_ifs with hclaim
  · simp only [readAccount, if_pos hclaim.symm] at h
    obtain ⟨rewards, hrewards, h⟩ := bind_eq_ok.mp h
    obtain ⟨-, rfl⟩ := Prod.mk.inj (Except.ok.inj h)
    exact parseLovelaceString_nonneg hrewards
  · exact le_rfl

end target

/-! ## The UTXOs of an account -/

/-- What an account holds and what the chain charges: UTXOs with numerals for quantities, served
page by page, and a deposit that is not negative. -/
structure ServesWallet (rpc : BlockfrostRpcClient) (account : String)
    (pages : ℕ → List BlockfrostUtxo) : Prop where
  serves : ∀ p, 1 ≤ p → rpc.getUtxos account p defaultUtxoPageSize = .ok (pages p)
  wellFormed : ∀ p, ∀ u ∈ pages p, u.WellFormed
  deposit : ∀ protocolParams keyDeposit, rpc.getProtocolParams = .ok protocolParams →
    bigInt protocolParams.keyDeposit = .ok keyDeposit → 0 ≤ keyDeposit

/-- The pure ADA on the pages a selection may read. -/
def funds (pages : ℕ → List BlockfrostUtxo) : ℤ :=
  spendableTotal (pagesRead pages (scanEnd pages defaultUtxoPageSize defaultMaxUtxoPages))

/-- The pure-ADA UTXOs that cover an amount: the largest first, of those on the pages up to the
first that reaches it. -/
def coverFrom (pages : ℕ → List BlockfrostUtxo) (amount : ℤ) : List Entry :=
  coverEntries
    (pagesRead pages (stopPage pages amount defaultUtxoPageSize defaultMaxUtxoPages)) amount

section serves

variable {rpc : BlockfrostRpcClient} {account : String} {pages : ℕ → List BlockfrostUtxo}
  {seedPage : List BlockfrostUtxo} {target : ℤ}

/-- The pages of the account are what a selection for it reads. -/
theorem ServesWallet.batch (hwallet : ServesWallet rpc account pages)
    (hseed : rpc.getUtxos account 1 100 = .ok seedPage) (p : ℕ) (hp : 1 ≤ p) :
    (walletOptions rpc account seedPage).batch p = .ok (pages p) := by
  have hfirst : seedPage = pages 1 := Except.ok.inj (hseed.symm.trans (hwallet.serves 1 le_rfl))
  by_cases h1 : p = 1
  · subst h1
    simp [walletOptions, SelectUtxosPagedOptions.batch, hfirst]
  · simp [walletOptions, SelectUtxosPagedOptions.batch, h1, hwallet.serves p hp]

/-- **What is selected for a target**: the cover of a target within reach of the funds. -/
theorem ServesWallet.selectUtxosPaged_eq_ok (hwallet : ServesWallet rpc account pages)
    (hseed : rpc.getUtxos account 1 100 = .ok seedPage) {selected : SelectedUtxos} :
    selectUtxosPaged target (walletOptions rpc account seedPage) = .ok selected ↔
      0 ≤ target ∧ target ≤ funds pages ∧ selected = selectionOf (coverFrom pages target) := by
  have hbatch := hwallet.batch hseed
  rcases lt_or_ge target 0 with hneg | h0
  · obtain ⟨message, herror⟩ := selectUtxosPaged_of_neg hwallet.wellFormed hbatch hneg
    rw [herror]
    exact iff_of_false nofun fun h => absurd h.1 (not_le.mpr hneg)
  rcases lt_or_ge (funds pages) target with hshort | hfunds
  · obtain ⟨message, herror⟩ := selectUtxosPaged_of_short hwallet.wellFormed hbatch hshort
    rw [herror]
    exact iff_of_false nofun fun h => absurd h.2.1 (not_le.mpr hshort)
  · rw [selectUtxosPaged_of_funded hwallet.wellFormed hbatch h0 hfunds]
    exact ⟨fun h => ⟨h0, hfunds, (Except.ok.inj h).symm⟩, fun h => h.2.2 ▸ rfl⟩

/-- A cover within reach of the funds reaches its amount. -/
theorem le_sum_coverFrom (hwf : ∀ p, ∀ u ∈ pages p, u.WellFormed) {amount : ℤ}
    (hfunds : amount ≤ funds pages) :
    amount ≤ ((coverFrom pages amount).map Entry.lovelaces).sum :=
  le_sum_coverEntries (wellFormed_pagesRead hwf _)
    ((le_spendableTotal_stopPage_iff hwf _ _ _).mpr hfunds)

end serves

/-! ## A wallet and its terms -/

/-- A wallet and the terms it transacts on. -/
structure WalletView where
  pages : ℕ → List BlockfrostUtxo
  minFeeA : ℤ
  minFeeB : ℤ
  keyDeposit : ℤ
  /-- The minimum of an output at the wallet's address. -/
  minUtxo : ℤ
  isStakeKeyRegistered : Bool
  rewardsOnChain : ℤ
  /-- The time to live of what is signed now. -/
  ttl : ℤ

/-- The client and the chain report the wallet of a transaction's account, and its terms. -/
structure ShowsWallet (sdk : CardanoSdk) (rpc : BlockfrostRpcClient) (transaction : Transaction)
    (w : WalletView) : Prop extends ServesWallet rpc (transaction.account.getD "") w.pages where
  params : ∃ protocolParams, rpc.getProtocolParams = .ok protocolParams ∧
    protocolParams.minFeeA = .int w.minFeeA ∧ protocolParams.minFeeB = .int w.minFeeB ∧
    bigInt protocolParams.keyDeposit = .ok w.keyDeposit ∧
    minUtxoFor sdk (transaction.account.getD "") protocolParams = .ok w.minUtxo
  account : ∃ credentials rewardAccount existingAccount,
    getBaseAddressCredentials sdk (transaction.account.getD "") = .ok credentials ∧
    buildRewardAccount sdk credentials.stakeKeyHashHex = .ok rewardAccount ∧
    rpc.getAccountOrNull rewardAccount = .ok existingAccount ∧
    readAccount transaction existingAccount = .ok (w.isStakeKeyRegistered, w.rewardsOnChain)
  slot : ∃ block, rpc.getLatestBlock = .ok block ∧ w.ttl = block.slot + ttlValiditySlots

namespace WalletView

variable (w : WalletView) (transaction : Transaction)

/-- What a transaction has to cover besides its fee: the deposit that is due and the minimum of the
change output. -/
def reserve : ℤ := depositDue transaction w.isStakeKeyRegistered w.keyDeposit + w.minUtxo

/-- The target for a fee. -/
def target (fee : ℤ) : SelectionTarget where
  requiredLovelaces := fee + depositDue transaction w.isStakeKeyRegistered w.keyDeposit
  minUtxo := w.minUtxo
  target := fee + w.reserve transaction

/-- What flows back into the change of a transaction: the rewards it withdraws and the deposit it
gets back. -/
def flowsBack : ℤ :=
  rewardAccountWithdrawal transaction w.rewardsOnChain
    + keyDepositRefund transaction w.keyDeposit

/-- The parts of a transaction that pays a fee from some inputs: the change is what they and what is
returned leave. -/
def spend (inputs : List Entry) (fee returned ttl : ℤ) : FeeParts where
  inputs := inputs.map fun e => e.utxo.toInput
  change := (inputs.map Entry.lovelaces).sum
    - (fee + depositDue transaction w.isStakeKeyRegistered w.keyDeposit) + returned
  fee
  ttl

/-- The parts of a transaction that pays a fee from the inputs that cover it and the reserve. -/
def parts (fee returned ttl : ℤ) : FeeParts :=
  w.spend transaction (coverFrom w.pages (fee + w.reserve transaction)) fee returned ttl

/-- What resolving the chain state of the wallet yields. -/
def chainState (protocolParams : BlockfrostProtocolParams) : ChainState where
  protocolParams
  seedPage := w.pages 1
  ttl := w.ttl
  isStakeKeyRegistered := w.isStakeKeyRegistered
  rewardsOnChain := w.rewardsOnChain

end WalletView

section shows

variable {sdk : CardanoSdk} {rpc : BlockfrostRpcClient} {transaction : Transaction}
  {w : WalletView} {protocolParams : BlockfrostProtocolParams}

/-- The first page is the one that both services have at hand. -/
theorem ShowsWallet.seedPage (hshows : ShowsWallet sdk rpc transaction w) :
    rpc.getUtxos (transaction.account.getD "") 1 100 = .ok (w.pages 1) :=
  hshows.serves 1 le_rfl

/-- The target for a fee is the wallet's. -/
theorem ShowsWallet.computeSelectionTarget_eq (hshows : ShowsWallet sdk rpc transaction w)
    (hneeds : needsAccount transaction = true)
    (hparams : rpc.getProtocolParams = .ok protocolParams) (fee : ℤ) :
    computeSelectionTarget sdk transaction fee protocolParams w.isStakeKeyRegistered
      (transaction.account.getD "") = .ok (w.target transaction fee) := by
  obtain ⟨protocolParams', hparams', -, -, hkey, hmin⟩ := hshows.params
  obtain rfl := Except.ok.inj (hparams.symm.trans hparams')
  exact computeSelectionTarget_eq_ok.mpr ⟨w.keyDeposit, hkey, hmin,
    computeRequiredLovelaces_eq hneeds _ _ _, (add_assoc _ _ _).symm⟩

/-- Only a transaction whose account is read has a target. -/
theorem ShowsWallet.target_eq (hshows : ShowsWallet sdk rpc transaction w)
    (hparams : rpc.getProtocolParams = .ok protocolParams) {fee : ℤ} {t : SelectionTarget}
    (h : computeSelectionTarget sdk transaction fee protocolParams w.isStakeKeyRegistered
      (transaction.account.getD "") = .ok t) :
    needsAccount transaction = true ∧ t = w.target transaction fee := by
  obtain ⟨_, _, _, hrequired, -⟩ := computeSelectionTarget_eq_ok.mp h
  have hneeds := needsAccount_of_computeRequiredLovelaces hrequired
  exact ⟨hneeds, Except.ok.inj
    (h.symm.trans (hshows.computeSelectionTarget_eq hneeds hparams fee))⟩

/-- **The chain state of a signature is the wallet's**, for either spelling of the key hash. -/
theorem ShowsWallet.chainState_eq (hshows : ShowsWallet sdk rpc transaction w)
    (hcase : ∀ h h', sameHex h h' = true → sdk.createRewardAccount h = sdk.createRewardAccount h')
    (hneeds : needsAccount transaction = true) {credentials : BaseCredentials}
    (hcredentials : getBaseAddressCredentials sdk (transaction.account.getD "") = .ok credentials)
    {stakeKeyHashHex : String}
    (hsame : sameHex credentials.stakeKeyHashHex stakeKeyHashHex = true) {c : ChainState}
    (hc : resolveChainState sdk rpc transaction (transaction.account.getD "") stakeKeyHashHex =
      .ok c) :
    rpc.getProtocolParams = .ok c.protocolParams ∧ c = w.chainState c.protocolParams := by
  obtain ⟨credentials', rewardAccount, existingAccount, hcredentials', hreward, hexisting, hread⟩ :=
    hshows.account
  obtain rfl := Except.ok.inj (hcredentials.symm.trans hcredentials')
  obtain ⟨rewardAccount', existingAccount', hreward', hparams, hseed, hexisting', hread'⟩ :=
    resolveChainState_eq_ok hc
  obtain ⟨⟨block, hblock, httl⟩, -, -⟩ := resolveChainState_checks hc
  obtain ⟨block', hblock', httl'⟩ := hshows.slot
  obtain rfl := Except.ok.inj (hblock.symm.trans hblock')
  -- both spellings name one reward account
  have haccount : rewardAccount' = rewardAccount := by
    obtain ⟨hash, hbrand, hreward⟩ := bind_eq_ok.mp hreward
    obtain ⟨hash', hbrand', hreward'⟩ := bind_eq_ok.mp hreward'
    rw [← Except.ok.inj hreward, ← Except.ok.inj hreward', brand_eq_ok hbrand,
      brand_eq_ok hbrand', hcase _ _ hsame]
  obtain rfl : existingAccount' = existingAccount :=
    Except.ok.inj ((hexisting' hneeds).symm.trans (haccount ▸ hexisting))
  obtain ⟨hregistered, hrewards⟩ := Prod.mk.inj (Except.ok.inj (hread'.symm.trans hread))
  have hpage : c.seedPage = w.pages 1 := Except.ok.inj (hseed.symm.trans hshows.seedPage)
  refine ⟨hparams, ?_⟩
  rw [WalletView.chainState, ← hpage, httl', ← httl, ← hregistered, ← hrewards]

/-- **What either signing path builds** for a fee: a body with the parts for it, within the funds of
the wallet. -/
theorem ShowsWallet.body_eq (hshows : ShowsWallet sdk rpc transaction w)
    (hcase : ∀ h h', sameHex h h' = true → sdk.createRewardAccount h = sdk.createRewardAccount h')
    (hneeds : needsAccount transaction = true) {credentials : BaseCredentials}
    (hcredentials : getBaseAddressCredentials sdk (transaction.account.getD "") = .ok credentials)
    {stakeKeyHashHex : String}
    (hsame : sameHex credentials.stakeKeyHashHex stakeKeyHashHex = true) {fee : ℤ} {body : TxBody}
    (h : resolveBody sdk rpc transaction (transaction.account.getD "") stakeKeyHashHex fee =
      .ok body) :
    fee + w.reserve transaction ≤ funds w.pages ∧ ∃ certificates withdrawals,
      buildCertificates sdk transaction stakeKeyHashHex w.isStakeKeyRegistered =
        .ok certificates ∧
      buildWithdrawals sdk transaction stakeKeyHashHex w.rewardsOnChain = .ok withdrawals ∧
      body = (w.parts transaction fee (w.flowsBack transaction) w.ttl).body
        (transaction.account.getD "") certificates withdrawals := by
  obtain ⟨c, hc, h⟩ := bind_eq_ok.mp h
  obtain ⟨selected, hselected, h⟩ := bind_eq_ok.mp h
  obtain ⟨t, ht, hselected⟩ := bind_eq_ok.mp hselected
  obtain ⟨keyDeposit, t', certificates, withdrawals, hkey, ht', hcertificates, hwithdrawals, -,
    rfl⟩ := buildBody_eq_ok h
  obtain rfl : t = t' := Except.ok.inj (ht.symm.trans ht')
  obtain ⟨hparams, hstate⟩ :=
    hshows.chainState_eq hcase hneeds hcredentials hsame hc
  obtain ⟨protocolParams, hparams', -, -, hkey', -⟩ := hshows.params
  obtain rfl := Except.ok.inj (hparams.symm.trans hparams')
  obtain rfl := Except.ok.inj (hkey.symm.trans hkey')
  rw [hstate] at ht hselected hcertificates hwithdrawals
  obtain ⟨-, rfl⟩ := hshows.target_eq hparams ht
  obtain ⟨-, hfunds, rfl⟩ := (hshows.selectUtxosPaged_eq_ok hshows.seedPage).mp hselected
  refine ⟨hfunds, certificates, withdrawals, hcertificates, hwithdrawals, ?_⟩
  rw [hstate, WalletView.flowsBack, WalletView.parts, WalletView.spend, ← add_assoc]
  rfl

end shows

/-! ### Further inputs -/

section further

variable {pages : ℕ → List BlockfrostUtxo} {amount more : ℤ}

/-- The pages read for an amount are those read for any more they hold. -/
theorem stopPage_eq (hle : amount ≤ more) {pageSize maxPages : ℕ}
    (hreach : more ≤ spendableTotal (pagesRead pages (stopPage pages amount pageSize maxPages))) :
    stopPage pages more pageSize maxPages = stopPage pages amount pageSize maxPages := by
  have hlater : stopPage pages amount pageSize maxPages ≤
      stopPage pages more pageSize maxPages :=
    firstPage_le_firstPage (fun q hq => by
      rcases (Bool.or_eq_true _ _).mp hq with hmet | hpage
      · simp [hle.trans (of_decide_eq_true hmet)]
      · simp [hpage]) maxPages
  rcases Nat.eq_zero_or_pos maxPages with rfl | hpos
  · rfl
  by_contra hne
  -- a page read beyond those would have followed one that holds enough
  have hbefore := not_of_lt_firstPage (firstPage_pos _ hpos) (lt_of_le_of_ne hlater (Ne.symm hne))
  rw [Bool.or_eq_false_iff, decide_eq_false_iff_not] at hbefore
  exact hbefore.1 hreach

/-- **The UTXOs that cover an amount are those that cover any more they hold.** -/
theorem coverFrom_eq (hwf : ∀ p, ∀ u ∈ pages p, u.WellFormed) (hle : amount ≤ more)
    (hreach : more ≤ ((coverFrom pages amount).map Entry.lovelaces).sum) :
    coverFrom pages more = coverFrom pages amount := by
  have hread := wellFormed_pagesRead hwf
    (stopPage pages amount defaultUtxoPageSize defaultMaxUtxoPages)
  have hholds : ((coverFrom pages amount).map Entry.lovelaces).sum ≤ spendableTotal
      (pagesRead pages (stopPage pages amount defaultUtxoPageSize defaultMaxUtxoPages)) := by
    rw [← sum_adaEntries hread]
    have hpart : coverFrom pages amount <+: adaEntries _ := cover_isPrefix _ _
    exact (hpart.sublist.map _).sum_le_sum
      (List.forall_mem_map.mpr fun e he => (lovelaces_pos_of_mem_adaEntries he).le)
  rw [coverFrom, stopPage_eq hle (hreach.trans hholds)]
  exact cover_eq_of_reaches hle 0 _ (by rw [zero_add]; exact hreach)

end further

end GuardianStake.Cardano
