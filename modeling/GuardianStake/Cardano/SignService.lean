import GuardianStake.Cardano.TxHelpers

/-!
# Signing on Cardano

`services/sign-service.ts`: the body both signing paths build, the chain state they read for it,
`sign` and `prehash`.

* `buildBody_eq_ok` — what a built body consists of.
* `buildBody_preservesValue` — **preservation of value**, with the minimum of the change output,
  the full withdrawal and the order of the certificates.
* `buildBody_vectorDelegate` — a first delegation on mainnet.
-/

namespace GuardianStake.Cardano

open Sdk

/-! ## The code -/

/-- Source: `services/sign-service.ts`, `TTL_VALIDITY_SLOTS`. -/
def ttlValiditySlots : ℤ := 7200

/-- Source: `services/sign-service.ts`, `buildBody`. -/
def buildBody (sdk : CardanoSdk) (transaction : Transaction) (paymentAddress : String)
    (selected : SelectedUtxos) (fee : ℤ) (protocolParams : BlockfrostProtocolParams)
    (stakeKeyHashHex : String) (ttl : ℤ) (isStakeKeyRegistered : Bool) (rewardsOnChain : ℤ) :
    Result TxBody := do
  let keyDeposit ← bigInt protocolParams.keyDeposit
  let t ← computeSelectionTarget sdk transaction fee protocolParams isStakeKeyRegistered
    paymentAddress
  let certificates ← buildCertificates sdk transaction stakeKeyHashHex isStakeKeyRegistered
  let withdrawals ← buildWithdrawals sdk transaction stakeKeyHashHex rewardsOnChain
  let rewardsReceived := rewardAccountWithdrawal transaction rewardsOnChain
  let outputLovelaces := selected.totalLovelaces - t.requiredLovelaces + rewardsReceived
    + keyDepositRefund transaction keyDeposit
  if outputLovelaces < t.minUtxo then
    throw (.validation .invalidAmount
      (s!"Insufficient funds: the change output would be {outputLovelaces} lovelace but the "
        ++ s!"minimum UTxO is {t.minUtxo}. Ensure the wallet has enough ADA to cover the fee"
        ++ (if transaction.type = .delegate ∧ !isStakeKeyRegistered then " and the key deposit"
            else "")
        ++ "."))
  buildTransactionBody sdk
    { inputs := selected.inputs
      outputAddress := paymentAddress
      outputLovelaces
      fee
      ttl := some ttl
      certificates := if certificates.isEmpty then none else some certificates
      withdrawals := if withdrawals.isEmpty then none else some withdrawals }

/-- What `resolveChainState` returns. -/
structure ChainState where
  protocolParams : BlockfrostProtocolParams
  seedPage : List BlockfrostUtxo
  ttl : ℤ
  isStakeKeyRegistered : Bool
  rewardsOnChain : ℤ
  deriving DecidableEq, Repr

/-- The types whose signing reads the reward account. -/
def needsAccount (transaction : Transaction) : Bool :=
  transaction.type = .delegate || transaction.type = .redelegate
    || transaction.type = .undelegate || transaction.type = .claimRewards

/-- The registration status and the reward balance an account response stands for: the balance
is read by the two types that sweep it. -/
def readAccount (transaction : Transaction) (existingAccount : Option BlockfrostAccount) :
    Result (Bool × ℤ) := do
  let isStakeKeyRegistered := (existingAccount.map BlockfrostAccount.active).getD false
  let rewardsOnChain ←
    if transaction.type = .undelegate ∨ transaction.type = .claimRewards then
      parseLovelaceString ((existingAccount.map BlockfrostAccount.withdrawableAmount).getD "0")
        "withdrawable_amount"
    else .ok 0
  return (isStakeKeyRegistered, rewardsOnChain)

/-- Source: `services/sign-service.ts`, `resolveChainState`. -/
def resolveChainState (sdk : CardanoSdk) (rpc : BlockfrostRpcClient) (transaction : Transaction)
    (paymentAddress stakeKeyHashHex : String) : Result ChainState := do
  let rewardAccount ← buildRewardAccount sdk stakeKeyHashHex
  let protocolParams ← rpc.getProtocolParams
  let seedPage ← rpc.getUtxos paymentAddress 1 100
  let latestBlock ← rpc.getLatestBlock
  let existingAccount ←
    if needsAccount transaction then rpc.getAccountOrNull rewardAccount else .ok none
  if latestBlock.slot ≤ 0 then
    throw (.signing .invalidSigningArgs
      "Received an invalid slot number from the node. Cannot compute a safe TTL.")
  let ttl := latestBlock.slot + ttlValiditySlots
  let (isStakeKeyRegistered, rewardsOnChain) ← readAccount transaction existingAccount
  if transaction.type = .undelegate ∧ !isStakeKeyRegistered then
    throw (.validation .unsupportedOperation
      "Cannot undelegate: the stake key is not registered on-chain (nothing to deregister).")
  if transaction.type = .claimRewards then
    if transaction.amount ≤ 0 then
      throw (.validation .invalidAmount "Claim amount must be greater than zero.")
    if rewardsOnChain ≤ 0 then
      throw (.validation .invalidAmount "No rewards are available to claim for this stake key.")
    if rewardsOnChain < transaction.amount then
      throw (.validation .invalidAmount
        (s!"ClaimRewards amount ({transaction.amount} lovelace) exceeds on-chain rewards "
          ++ s!"({rewardsOnChain} lovelace)."))
  return { protocolParams, seedPage, ttl, isStakeKeyRegistered, rewardsOnChain }

/-- The options both services select inputs with: page 1 is at hand, further ones are read from
the client. -/
def walletOptions (rpc : BlockfrostRpcClient) (paymentAddress : String)
    (seedPage : List BlockfrostUtxo) : SelectUtxosPagedOptions :=
  { fetchPage := fun page count => rpc.getUtxos paymentAddress page count
    seedPage := some seedPage }

/-- Source: `services/sign-service.ts`, `selectInputs`. -/
def selectInputs (sdk : CardanoSdk) (rpc : BlockfrostRpcClient) (transaction : Transaction)
    (fee : ℤ) (protocolParams : BlockfrostProtocolParams) (isStakeKeyRegistered : Bool)
    (paymentAddress : String) (seedPage : List BlockfrostUtxo) : Result SelectedUtxos := do
  let t ← computeSelectionTarget sdk transaction fee protocolParams isStakeKeyRegistered
    paymentAddress
  selectUtxosPaged t.target (walletOptions rpc paymentAddress seedPage)

/-- What both signing paths do between their checks and their signatures: read the chain, select
the inputs, build the body. -/
def resolveBody (sdk : CardanoSdk) (rpc : BlockfrostRpcClient) (transaction : Transaction)
    (account stakeKeyHashHex : String) (fee : ℤ) : Result TxBody := do
  let c ← resolveChainState sdk rpc transaction account stakeKeyHashHex
  let selected ← selectInputs sdk rpc transaction fee c.protocolParams c.isStakeKeyRegistered
    account c.seedPage
  buildBody sdk transaction account selected fee c.protocolParams stakeKeyHashHex c.ttl
    c.isStakeKeyRegistered c.rewardsOnChain

/-- Source: `sign-types.ts`, `CardanoSigningWithPrivateKey`. -/
structure CardanoSigningWithPrivateKey where
  transaction : Transaction
  fee : Fee
  paymentPrivateKey : String
  stakingPrivateKey : String
  deriving DecidableEq, Repr

/-- Source: `sign-types.ts`, `CardanoPrehashArgs`. -/
structure CardanoPrehashArgs where
  transaction : Transaction
  fee : Fee
  stakingPublicKey : String
  deriving DecidableEq, Repr

/-- `a.toLowerCase() === b.toLowerCase()`. -/
def sameHex (a b : String) : Bool := a.toList.map Char.toLower = b.toList.map Char.toLower

/-- Source: `services/sign-service.ts`, `sign`. An account of length zero counts as missing. -/
def sign (sdk : CardanoSdk) (rpc : BlockfrostRpcClient) (args : CardanoSigningWithPrivateKey) :
    Result SignedTransaction := do
  let paymentPrivHex ← parseCardanoPrivateKey sdk args.paymentPrivateKey
  let stakingPrivHex ← parseCardanoPrivateKey sdk args.stakingPrivateKey
  let paymentPubKey := sdk.toPublic paymentPrivHex
  let stakingPubKey := sdk.toPublic stakingPrivHex
  let stakeKeyHashHex := sdk.keyHash stakingPubKey
  let account := args.transaction.account.getD ""
  if account = "" then
    throw (.validation .invalidAddress
      "transaction.account (payment address, addr1...) is required for Cardano signing.")
  let .utxoFee _ total := args.fee
    | throw (.signing .invalidFeeType
        "Cardano transactions require a `UtxoFee`. Call `estimateFee()` first.")
  checkIfPaymentAddressIsValid sdk account
  let addrCreds ← getBaseAddressCredentials sdk account
  if !sameHex addrCreds.paymentKeyHashHex (sdk.keyHash paymentPubKey) then
    throw (.signing .invalidSigningArgs
      ("paymentPrivateKey does not correspond to transaction.account "
        ++ "(payment credential mismatch)."))
  if !sameHex addrCreds.stakeKeyHashHex stakeKeyHashHex then
    throw (.signing .invalidSigningArgs
      "stakingPrivateKey does not correspond to transaction.account (stake credential mismatch).")
  let body ← resolveBody sdk rpc args.transaction account stakeKeyHashHex total
  let txBodyHash := sdk.bodyHash body
  buildSignedTransaction sdk body
    [{ vkeyHex := paymentPubKey, sigHex := sdk.sign paymentPrivHex txBodyHash },
      { vkeyHex := stakingPubKey, sigHex := sdk.sign stakingPrivHex txBodyHash }]

/-- Source: `services/sign-service.ts`, `prehash`: the hash to sign, and the body kept with the
arguments. -/
def prehash (sdk : CardanoSdk) (rpc : BlockfrostRpcClient) (args : CardanoPrehashArgs) :
    Result (String × TxBody) := do
  let account := args.transaction.account.getD ""
  if account = "" then
    throw (.validation .invalidAddress
      "transaction.account (payment address, addr1...) is required.")
  let .utxoFee _ total := args.fee
    | throw (.signing .invalidFeeType
        "Cardano prehash requires a `UtxoFee`. Call `estimateFee()` first.")
  let stakingPublicKey ← parseCardanoPublicKey sdk args.stakingPublicKey
  checkIfPaymentAddressIsValid sdk account
  let stakeKeyHashHex := sdk.keyHash stakingPublicKey
  let addrCreds ← getBaseAddressCredentials sdk account
  if !sameHex addrCreds.stakeKeyHashHex stakeKeyHashHex then
    throw (.signing .invalidSigningArgs
      "stakingPublicKey does not correspond to transaction.account (stake credential mismatch).")
  let body ← resolveBody sdk rpc args.transaction account stakeKeyHashHex total
  return (sdk.bodyHash body, body)

/-! ## What a built body consists of -/

section buildBody

variable {sdk : CardanoSdk} {transaction : Transaction} {paymentAddress : String}
  {selected : SelectedUtxos} {fee : ℤ} {protocolParams : BlockfrostProtocolParams}
  {stakeKeyHashHex : String} {ttl : ℤ} {isStakeKeyRegistered : Bool} {rewardsOnChain : ℤ}
  {body : TxBody}

/-- The minimum UTxO of an address under some protocol parameters. -/
def minUtxoFor (sdk : CardanoSdk) (paymentAddress : String)
    (protocolParams : BlockfrostProtocolParams) : Result ℤ := do
  let coinsPerUtxoByte ←
    bigInt (protocolParams.coinsPerUtxoSize.getD defaultCoinsPerUtxoSize)
  computeMinOutputLovelace sdk paymentAddress coinsPerUtxoByte

/-- What the selection target is made of. -/
theorem computeSelectionTarget_eq_ok {t : SelectionTarget} :
    computeSelectionTarget sdk transaction fee protocolParams isStakeKeyRegistered paymentAddress =
        .ok t ↔
      ∃ keyDeposit, bigInt protocolParams.keyDeposit = .ok keyDeposit ∧
        minUtxoFor sdk paymentAddress protocolParams = .ok t.minUtxo ∧
        computeRequiredLovelaces transaction fee keyDeposit isStakeKeyRegistered =
          .ok t.requiredLovelaces ∧
        t.target = t.requiredLovelaces + t.minUtxo := by
  simp only [computeSelectionTarget, minUtxoFor, bind_eq_ok]
  constructor
  · rintro ⟨keyDeposit, hkey, coins, hcoins, minUtxo, hmin, required, hrequired, h⟩
    obtain rfl := Except.ok.inj h
    exact ⟨keyDeposit, hkey, ⟨coins, hcoins, hmin⟩, hrequired, rfl⟩
  · rintro ⟨keyDeposit, hkey, ⟨coins, hcoins, hmin⟩, hrequired, htarget⟩
    refine ⟨keyDeposit, hkey, coins, hcoins, t.minUtxo, hmin, t.requiredLovelaces, hrequired, ?_⟩
    rw [← htarget]
    rfl

/-- **What a built body consists of.** -/
theorem buildBody_eq_ok
    (h : buildBody sdk transaction paymentAddress selected fee protocolParams stakeKeyHashHex ttl
      isStakeKeyRegistered rewardsOnChain = .ok body) :
    ∃ keyDeposit t certificates withdrawals,
      bigInt protocolParams.keyDeposit = .ok keyDeposit ∧
      computeSelectionTarget sdk transaction fee protocolParams isStakeKeyRegistered
        paymentAddress = .ok t ∧
      buildCertificates sdk transaction stakeKeyHashHex isStakeKeyRegistered =
        .ok certificates ∧
      buildWithdrawals sdk transaction stakeKeyHashHex rewardsOnChain = .ok withdrawals ∧
      t.minUtxo ≤ selected.totalLovelaces - t.requiredLovelaces
        + rewardAccountWithdrawal transaction rewardsOnChain
        + keyDepositRefund transaction keyDeposit ∧
      body =
        { inputs := selected.inputs
          outputs := [{
            address := paymentAddress
            coins := selected.totalLovelaces - t.requiredLovelaces
              + rewardAccountWithdrawal transaction rewardsOnChain
              + keyDepositRefund transaction keyDeposit }]
          fee
          invalidHereafter := some ttl
          certificates
          withdrawals } := by
  obtain ⟨keyDeposit, hkey, h⟩ := bind_eq_ok.mp h
  obtain ⟨t, ht, h⟩ := bind_eq_ok.mp h
  obtain ⟨certificates, hcertificates, h⟩ := bind_eq_ok.mp h
  obtain ⟨withdrawals, hwithdrawals, h⟩ := bind_eq_ok.mp h
  obtain ⟨hguard, h⟩ := guard_eq_ok.mp h
  have hbody := buildTransactionBody_eq_ok h
  rw [getD_isEmpty, getD_isEmpty] at hbody
  exact ⟨keyDeposit, t, certificates, withdrawals, hkey, ht, hcertificates, hwithdrawals,
    not_lt.mp hguard, hbody⟩

/-! ## Preservation of value -/

/-- The ledger rules a body has to meet, for inputs worth `totalInputs` and a stake key with a
given status and reward balance. -/
structure PreservesValue (keyDeposit minUtxo rewardsOnChain : ℤ) (isStakeKeyRegistered : Bool)
    (totalInputs : ℤ) (body : TxBody) : Prop where
  /-- What goes in comes out: inputs, withdrawals and refunds on one side, outputs, fee and
  deposits on the other. -/
  value : totalInputs + (body.withdrawals.map Prod.snd).sum
      + keyDeposit * deregistrations body.certificates =
    (body.outputs.map TxOut.coins).sum + body.fee + keyDeposit * registrations body.certificates
  /-- There is one output, and it is not below the minimum. -/
  output : ∃ out, body.outputs = [out] ∧ minUtxo ≤ out.coins
  /-- A withdrawal takes the whole balance. -/
  withdrawal : ∀ w ∈ body.withdrawals, w.2 = rewardsOnChain
  /-- An unregistered key is registered before it delegates. -/
  registration : isStakeKeyRegistered = false → ∀ pre key pool post,
    body.certificates = pre ++ .stakeDelegation key pool :: post → .stakeRegistration key ∈ pre

/-- **Preservation of value.** Whatever is signed, for every state of the chain, every fee and
every selection: a body that is built balances, and its output, its withdrawals and its
certificates are what the ledger asks for. -/
theorem buildBody_preservesValue (h0 : 0 ≤ rewardsOnChain)
    (h : buildBody sdk transaction paymentAddress selected fee protocolParams stakeKeyHashHex ttl
      isStakeKeyRegistered rewardsOnChain = .ok body) :
    ∃ keyDeposit minUtxo, bigInt protocolParams.keyDeposit = .ok keyDeposit ∧
      minUtxoFor sdk paymentAddress protocolParams = .ok minUtxo ∧
      body.inputs = selected.inputs ∧ body.fee = fee ∧
      PreservesValue keyDeposit minUtxo rewardsOnChain isStakeKeyRegistered
        selected.totalLovelaces body := by
  obtain ⟨keyDeposit, t, certificates, withdrawals, hkey, ht, hcertificates, hwithdrawals, hmin,
    rfl⟩ := buildBody_eq_ok h
  obtain ⟨keyDeposit', hkey', hminUtxo, hrequired, -⟩ := computeSelectionTarget_eq_ok.mp ht
  obtain rfl : keyDeposit = keyDeposit' := Except.ok.inj (hkey.symm.trans hkey')
  obtain ⟨hdeposit, hrefund⟩ := certificates_agree hcertificates hrequired
  obtain ⟨hsum, hfull⟩ := buildWithdrawals_eq_ok h0 hwithdrawals
  refine ⟨keyDeposit, t.minUtxo, hkey, hminUtxo, rfl, rfl, ?_, ⟨_, rfl, hmin⟩, hfull, ?_⟩
  · -- each of the five helpers contributes its own term
    show selected.totalLovelaces + (withdrawals.map Prod.snd).sum
        + keyDeposit * deregistrations certificates = (selected.totalLovelaces
        - t.requiredLovelaces + rewardAccountWithdrawal transaction rewardsOnChain
        + keyDepositRefund transaction keyDeposit + 0) + fee
        + keyDeposit * registrations certificates
    rw [hsum, hrefund, hdeposit]
    ring
  · rintro rfl pre key pool post hsplit
    exact registration_before_delegation hcertificates hsplit

end buildBody

/-! ## What is read for a body -/

section resolveChainState

variable {sdk : CardanoSdk} {rpc : BlockfrostRpcClient} {transaction : Transaction}
  {account stakeKeyHashHex : String} {c : ChainState}

/-- The types whose amounts can be computed are those whose account is read. -/
theorem needsAccount_of_computeRequiredLovelaces {fee keyDeposit required : ℤ} {registered : Bool}
    (h : computeRequiredLovelaces transaction fee keyDeposit registered = .ok required) :
    needsAccount transaction = true := by
  cases transaction with
  | delegate | redelegate | undelegate | claimRewards => rfl
  | claimDelegate | vote => cases h

/-- What the chain state of a body has been read from. -/
theorem resolveChainState_eq_ok
    (h : resolveChainState sdk rpc transaction account stakeKeyHashHex = .ok c) :
    ∃ rewardAccount existingAccount,
      buildRewardAccount sdk stakeKeyHashHex = .ok rewardAccount ∧
      rpc.getProtocolParams = .ok c.protocolParams ∧
      rpc.getUtxos account 1 100 = .ok c.seedPage ∧
      (needsAccount transaction = true →
        rpc.getAccountOrNull rewardAccount = .ok existingAccount) ∧
      readAccount transaction existingAccount =
        .ok (c.isStakeKeyRegistered, c.rewardsOnChain) := by
  obtain ⟨rewardAccount, hreward, h⟩ := bind_eq_ok.mp h
  obtain ⟨protocolParams, hparams, h⟩ := bind_eq_ok.mp h
  obtain ⟨seedPage, hseed, h⟩ := bind_eq_ok.mp h
  obtain ⟨latestBlock, -, h⟩ := bind_eq_ok.mp h
  -- the account is read for some types only
  obtain ⟨existingAccount, hexisting, h⟩ :
      ∃ existingAccount, (needsAccount transaction = true →
        rpc.getAccountOrNull rewardAccount = .ok existingAccount) ∧ _ := by
    by_cases hneeds : needsAccount transaction = true
    · simp only [if_pos hneeds] at h
      obtain ⟨existingAccount, hexisting, h⟩ := bind_eq_ok.mp h
      exact ⟨existingAccount, fun _ => hexisting, h⟩
    · simp only [if_neg hneeds] at h
      exact ⟨none, fun hneeds' => absurd hneeds' hneeds, h⟩
  obtain ⟨-, h⟩ := guard_eq_ok.mp h
  obtain ⟨⟨registered, rewards⟩, hread, h⟩ := bind_eq_ok.mp h
  obtain ⟨-, h⟩ := guard_eq_ok.mp h
  refine ⟨rewardAccount, existingAccount, hreward, ?_⟩
  have hc : .ok c = (.ok
      { protocolParams, seedPage, ttl := latestBlock.slot + ttlValiditySlots,
        isStakeKeyRegistered := registered, rewardsOnChain := rewards } : Result ChainState) := by
    by_cases hclaim : transaction.type = .claimRewards
    · simp only [if_pos hclaim] at h
      obtain ⟨-, h⟩ := guard_eq_ok.mp h
      obtain ⟨-, h⟩ := guard_eq_ok.mp h
      obtain ⟨-, h⟩ := guard_eq_ok.mp h
      exact h.symm
    · simp only [if_neg hclaim] at h
      exact h.symm
  rw [Except.ok.inj hc]
  exact ⟨hparams, hseed, hexisting, hread⟩

/-- What has been checked of the chain state besides: the time to live, that there is something to
deregister, and that there is something to claim. -/
theorem resolveChainState_checks
    (h : resolveChainState sdk rpc transaction account stakeKeyHashHex = .ok c) :
    (∃ block, rpc.getLatestBlock = .ok block ∧ c.ttl = block.slot + ttlValiditySlots) ∧
      (transaction.type = .undelegate → c.isStakeKeyRegistered = true) ∧
      (transaction.type = .claimRewards → 0 < c.rewardsOnChain) := by
  obtain ⟨rewardAccount, -, h⟩ := bind_eq_ok.mp h
  obtain ⟨protocolParams, -, h⟩ := bind_eq_ok.mp h
  obtain ⟨seedPage, -, h⟩ := bind_eq_ok.mp h
  obtain ⟨latestBlock, hblock, h⟩ := bind_eq_ok.mp h
  -- the account is read for some types only
  obtain ⟨existing, h⟩ : ∃ existing : Option BlockfrostAccount, _ := by
    by_cases hneeds : needsAccount transaction = true
    · simp only [if_pos hneeds] at h
      obtain ⟨existing, -, h⟩ := bind_eq_ok.mp h
      exact ⟨existing, h⟩
    · simp only [if_neg hneeds] at h
      exact ⟨none, h⟩
  obtain ⟨-, h⟩ := guard_eq_ok.mp h
  obtain ⟨⟨registered, rewards⟩, -, h⟩ := bind_eq_ok.mp h
  obtain ⟨hregistered, h⟩ := guard_eq_ok.mp h
  have hundelegate : transaction.type = .undelegate → registered = true := by
    intro htype
    by_contra hnot
    exact hregistered ⟨htype, by simpa using hnot⟩
  by_cases hclaim : transaction.type = .claimRewards
  · simp only [if_pos hclaim] at h
    obtain ⟨-, h⟩ := guard_eq_ok.mp h
    obtain ⟨hrewards, h⟩ := guard_eq_ok.mp h
    obtain ⟨-, h⟩ := guard_eq_ok.mp h
    obtain rfl := Except.ok.inj h
    exact ⟨⟨latestBlock, hblock, rfl⟩, hundelegate, fun _ => not_le.mp hrewards⟩
  · simp only [if_neg hclaim] at h
    obtain rfl := Except.ok.inj h
    exact ⟨⟨latestBlock, hblock, rfl⟩, hundelegate, fun htype => absurd htype hclaim⟩

end resolveChainState

/-! ### A first delegation -/

/-- A mainnet base address. -/
def vectorAddress : String :=
  "addr1qx2fxv2umyhttkxyxp8x0dlpdt3k6cwng5pxj3jhsydzer3n0d3vllmyqwsx5wktcd8cc3sq835lu7drv2xwl2wywfg"
    ++ "se35a3x"

/-- The stake key hash of that address. -/
def vectorStakeKeyHash : String := "337b62cfff6403a06a3acbc34f8c46003c69fe79a3628cefa9c47251"

/-- The stake address of that key hash. -/
def vectorStakeAddress : String := "stake1uyehkck0lajq8gr28t9uxnuvgcqrc6070x3k9r8048z8y5gh6ffgw"

/-- A mainnet pool. -/
def vectorPoolId : String := "pool1pu5jlj4q9w9jlxeu370a3c9myx47md5j5m2str0naunn2q3lkdy"

/-- The external SDK on that address and that pool. Its key operations and the size of a
transaction are placeholders. -/
def vectorSdk : CardanoSdk where
  isTransactionId := fun value => value.toList.length = 64
  isPaymentAddress := fun value => value = vectorAddress
  isRewardAccount := fun value => value = vectorStakeAddress
  isKeyHash := fun value => value.toList.length = 56
  isHexString := fun value length => value.toList.length = length
  parseAddress := fun value =>
    if value = vectorAddress then
      some { type := .base, isMainnet := true,
             asBase := some {
               paymentKeyHashHex := "9493315cd92eb5d8c4304e67b7e16ae36d61d34502694657811a2c8e"
               stakeKeyHashHex := vectorStakeKeyHash } }
    else none
  poolIdToKeyHash := fun poolId =>
    if poolId = vectorPoolId then
      some "0f292fcaa02b8b2f9b3c8f9fd8e0bb21abedb692a6d5058df3ef2735"
    else none
  createRewardAccount := fun keyHash =>
    if keyHash = vectorStakeKeyHash then vectorStakeAddress else ""
  outputSize := fun _ => 61
  toPublic := id
  keyHash := fun value => String.ofList (value.toList.take 56)
  sign := fun privateKey message => privateKey ++ message
  bodyHash := fun _ => ""
  isValid := fun _ => true
  txSize := fun _ => 0

/-- Cardano mainnet. -/
def cardanoMainnet : GuardianChain := { id := "cardano-mainnet", chainId := none }

/-- Mainnet's protocol parameters. -/
def mainnetParams : BlockfrostProtocolParams :=
  { minFeeA := .int 44, minFeeB := .int 155381, keyDeposit := "2000000",
    coinsPerUtxoSize := some "4310" }

/-- A transaction hash. -/
def vectorTxHash : String := "a1075db55d416d3ca199f55b6e2115b9345e16c5cf302fc80e9d5fbf5d48d4aa"

/-- A delegation to that pool from that address. -/
def vectorDelegate : Transaction :=
  .delegate { chain := cardanoMainnet, amount := 5000000, account := some vectorAddress } false
    (some (.operatorAddress vectorPoolId)) none

/-- A first delegation from 10 ADA pays the deposit and the fee and keeps the rest. -/
theorem buildBody_vectorDelegate :
    ∃ body keyDeposit minUtxo,
      body.outputs = [{ address := vectorAddress, coins := 7800000 }] ∧
      PreservesValue keyDeposit minUtxo 0 false 10000000 body := by
  have hbody : buildBody vectorSdk vectorDelegate vectorAddress
      { inputs := [{ txHashHex := vectorTxHash, index := 0 }], totalLovelaces := 10000000 }
      200000 mainnetParams vectorStakeKeyHash 140000000 false 0 =
        .ok {
          inputs := [{ txHashHex := vectorTxHash, index := 0 }]
          outputs := [{ address := vectorAddress, coins := 7800000 }]
          fee := 200000
          invalidHereafter := some 140000000
          certificates := [.stakeRegistration vectorStakeKeyHash,
            .stakeDelegation vectorStakeKeyHash
              "0f292fcaa02b8b2f9b3c8f9fd8e0bb21abedb692a6d5058df3ef2735"]
          withdrawals := [] } := by
    decide +kernel
  obtain ⟨keyDeposit, minUtxo, -, -, -, -, hvalue⟩ :=
    buildBody_preservesValue (by decide) hbody
  exact ⟨_, keyDeposit, minUtxo, rfl, hvalue⟩

end GuardianStake.Cardano
