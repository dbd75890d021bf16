import GuardianStake.Cardano.CoinSelection
import GuardianStake.Found.Loop

/-!
# The helpers a Cardano transaction is put together with

`tx/tx-helpers.ts` and the body assembly of `tx/tx-builder.ts`.

* `coinSizeLoop` — the fixed-point iteration behind the minimum UTxO, with its variant;
  `computeMinOutputLovelace_fixed` says that the result is the minimum for an output whose coin
  field has the width of that very result.
* `certificates_agree` — what the certificates cost and return, type by type, agrees with what the
  amounts are computed from.
* `buildTransactionBody_eq_ok` — a body carries its parameters.
-/

namespace GuardianStake.Cardano

open Sdk Found

/-! ## The minimum UTxO -/

/-- Source: `tx/tx-helpers.ts`, `MIN_UTXO_OVERHEAD`. -/
def minUtxoOverhead : ℤ := 160

/-- Source: `tx/tx-helpers.ts`, `cborUintSize`. -/
def cborUintSize (n : ℤ) : ℕ :=
  if n < 24 then 1
  else if n < 0x100 then 2
  else if n < 0x10000 then 3
  else if n < 0x100000000 then 5
  else 9

theorem cborUintSize_pos (n : ℤ) : 1 ≤ cborUintSize n := by
  unfold cborUintSize
  split_ifs <;> omega

theorem cborUintSize_le (n : ℤ) : cborUintSize n ≤ 9 := by
  unfold cborUintSize
  split_ifs <;> omega

theorem cborUintSize_mono {m n : ℤ} (h : m ≤ n) : cborUintSize m ≤ cborUintSize n := by
  unfold cborUintSize
  split_ifs <;> omega

/-- The local `tentativeMinAda` for a coin field of a given width. -/
def tentativeMinAda (outputSize : ℕ) (coinsPerUtxoByte : ℤ) (latestCoinSize : ℕ) : ℤ :=
  (outputSize + minUtxoOverhead + (latestCoinSize - cborUintSize 1 : ℤ)) * coinsPerUtxoByte

/-- The width of the coin field the next iteration assumes. -/
def newCoinSize (outputSize : ℕ) (coinsPerUtxoByte : ℤ) (latestCoinSize : ℕ) : ℕ :=
  cborUintSize (tentativeMinAda outputSize coinsPerUtxoByte latestCoinSize)

/-- A wider coin field never leads to a narrower one. -/
theorem newCoinSize_mono (outputSize : ℕ) (coinsPerUtxoByte : ℤ) {l m : ℕ} (h : l ≤ m) :
    newCoinSize outputSize coinsPerUtxoByte l ≤ newCoinSize outputSize coinsPerUtxoByte m := by
  rcases le_or_gt 0 coinsPerUtxoByte with hc | hc
  · apply cborUintSize_mono
    unfold tentativeMinAda
    gcongr
  · -- a negative price makes every tentative amount negative
    have hneg : tentativeMinAda outputSize coinsPerUtxoByte l < 24 := by
      have hbytes : (0 : ℤ) ≤ outputSize + minUtxoOverhead + (l - cborUintSize 1 : ℤ) := by
        have h1 : (cborUintSize 1 : ℤ) = 1 := rfl
        rw [h1, minUtxoOverhead]
        omega
      have hle := mul_nonpos_of_nonneg_of_nonpos hbytes hc.le
      rw [tentativeMinAda]
      omega
    have hone : newCoinSize outputSize coinsPerUtxoByte l = 1 := if_pos hneg
    rw [hone]
    exact cborUintSize_pos _

/-- The iteration `while (!isDone)`, from the width it assumes to the width it is left with. The
widths move in one direction and stay below ten. -/
def coinSizeLoop (outputSize : ℕ) (coinsPerUtxoByte : ℤ) : Loop ℕ ℕ where
  body := fun latestCoinSize =>
    if latestCoinSize = newCoinSize outputSize coinsPerUtxoByte latestCoinSize then
      .inr (newCoinSize outputSize coinsPerUtxoByte latestCoinSize)
    else .inl (newCoinSize outputSize coinsPerUtxoByte latestCoinSize)
  rank := fun l =>
    let l' := newCoinSize outputSize coinsPerUtxoByte l
    if l < l' then 9 - l else if l' < l then l else 0
  rank_lt := by
    intro l l' hbody
    split at hbody
    · cases hbody
    · next hne =>
        obtain rfl : _ = l' := Sum.inl.inj hbody
        have hle := cborUintSize_le (tentativeMinAda outputSize coinsPerUtxoByte l)
        change newCoinSize outputSize coinsPerUtxoByte l ≤ 9 at hle
        rcases lt_or_gt_of_ne hne with hlt | hgt
        · have hmono := newCoinSize_mono outputSize coinsPerUtxoByte hlt.le
          simp only [if_pos hlt]
          split_ifs <;> omega
        · have hmono := newCoinSize_mono outputSize coinsPerUtxoByte hgt.le
          simp only [if_neg hgt.not_gt, if_pos hgt]
          split_ifs <;> omega

/-- Source: `tx/tx-helpers.ts`, `computeMinOutputLovelace`. -/
def computeMinOutputLovelace (sdk : CardanoSdk) (paymentAddress : String) (coinsPerUtxoByte : ℤ) :
    Result ℤ := do
  let address ← brand sdk.isPaymentAddress paymentAddress
  let outputSize := sdk.outputSize address
  let latestCoinSize := (coinSizeLoop outputSize coinsPerUtxoByte).exec (cborUintSize 1)
  return tentativeMinAda outputSize coinsPerUtxoByte latestCoinSize

/-- The minimum UTxO is the price of an output whose coin field is as wide as that minimum
needs. -/
theorem computeMinOutputLovelace_fixed {sdk : CardanoSdk} {paymentAddress : String}
    {coinsPerUtxoByte minUtxo : ℤ}
    (h : computeMinOutputLovelace sdk paymentAddress coinsPerUtxoByte = .ok minUtxo) :
    minUtxo =
      tentativeMinAda (sdk.outputSize paymentAddress) coinsPerUtxoByte (cborUintSize minUtxo) := by
  obtain ⟨address, haddress, hrest⟩ := bind_eq_ok.mp h
  rw [← brand_eq_ok haddress]
  have hmin := (Except.ok.inj hrest).symm
  have hfixed := (coinSizeLoop (sdk.outputSize address) coinsPerUtxoByte).exec_induction
    (I := fun _ => True)
    (Q := fun l => l = newCoinSize (sdk.outputSize address) coinsPerUtxoByte l)
    (fun _ _ _ _ => trivial)
    (fun l r _ hbody => by
      simp only [coinSizeLoop] at hbody
      split at hbody
      · next heq =>
          obtain rfl : _ = r := Sum.inr.inj hbody
          rw [← heq]
          exact heq
      · cases hbody)
    (s := cborUintSize 1) trivial
  rw [newCoinSize, ← hmin] at hfixed
  rw [← hfixed]
  exact hmin

/-! ## Certificates, withdrawals, amounts -/

/-- Certificates that delegate to a pool, with the registration an unregistered key needs. -/
def delegationCertificates (stakeKeyHashHex poolKeyHashHex : String)
    (isStakeKeyRegistered : Bool) : List CardanoCertificate :=
  (if isStakeKeyRegistered then [] else [.stakeRegistration stakeKeyHashHex])
    ++ [.stakeDelegation stakeKeyHashHex poolKeyHashHex]

/-- Source: `tx/tx-helpers.ts`, `buildCertificates`. -/
def buildCertificates (sdk : CardanoSdk) (transaction : Transaction) (stakeKeyHashHex : String)
    (isStakeKeyRegistered : Bool) : Result (List CardanoCertificate) :=
  match transaction with
  | .delegate .. => do
      let validator ← assertValidator transaction
      let poolKeyHashHex ← parsePoolId sdk validator.address
      return delegationCertificates stakeKeyHashHex poolKeyHashHex isStakeKeyRegistered
  | .redelegate _ _ _ toValidator => do
      let poolKeyHashHex ← parsePoolId sdk toValidator.address
      return delegationCertificates stakeKeyHashHex poolKeyHashHex isStakeKeyRegistered
  | .undelegate .. => .ok [.stakeDeregistration stakeKeyHashHex]
  | _ => .ok []

/-- Source: `tx/tx-helpers.ts`, `rewardAccountWithdrawal`. -/
def rewardAccountWithdrawal (transaction : Transaction) (rewardsOnChain : ℤ) : ℤ :=
  if transaction.type = .claimRewards ∨ transaction.type = .undelegate then rewardsOnChain else 0

/-- Source: `tx/tx-helpers.ts`, `buildWithdrawals`. -/
def buildWithdrawals (sdk : CardanoSdk) (transaction : Transaction) (stakeKeyHashHex : String)
    (rewardsOnChain : ℤ) : Result (List (String × ℤ)) := do
  let amount := rewardAccountWithdrawal transaction rewardsOnChain
  if amount ≤ 0 then return []
  let rewardAccount ← buildRewardAccount sdk stakeKeyHashHex
  return [(rewardAccount, amount)]

/-- Source: `tx/tx-helpers.ts`, `computeRequiredLovelaces`. -/
def computeRequiredLovelaces (transaction : Transaction) (fee keyDeposit : ℤ)
    (isStakeKeyRegistered : Bool) : Result ℤ :=
  match transaction with
  | .delegate .. | .redelegate .. => .ok (fee + if isStakeKeyRegistered then 0 else keyDeposit)
  | .undelegate .. | .claimRewards .. => .ok fee
  | _ =>
      .error (.signing .unsupportedTransactionType
        (s!"computeRequiredLovelaces: unsupported transaction type \"{transaction.type.toText}\" "
          ++ "on Cardano."))

/-- What `computeSelectionTarget` returns. -/
structure SelectionTarget where
  requiredLovelaces : ℤ
  minUtxo : ℤ
  target : ℤ
  deriving DecidableEq, Repr

/-- Source: `tx/tx-helpers.ts`, `computeSelectionTarget`. -/
def computeSelectionTarget (sdk : CardanoSdk) (transaction : Transaction) (fee : ℤ)
    (protocolParams : BlockfrostProtocolParams) (isStakeKeyRegistered : Bool)
    (paymentAddress : String) : Result SelectionTarget := do
  let keyDeposit ← bigInt protocolParams.keyDeposit
  let coinsPerUtxoByte ←
    bigInt (protocolParams.coinsPerUtxoSize.getD defaultCoinsPerUtxoSize)
  let minUtxo ← computeMinOutputLovelace sdk paymentAddress coinsPerUtxoByte
  let requiredLovelaces ←
    computeRequiredLovelaces transaction fee keyDeposit isStakeKeyRegistered
  return { requiredLovelaces, minUtxo, target := requiredLovelaces + minUtxo }

/-! ## The body -/

/-- Source: `tx/tx-builder.ts`, `buildCoreCertificate`. -/
def buildCoreCertificate (sdk : CardanoSdk) : CardanoCertificate → Result CardanoCertificate
  | .stakeRegistration stakeKeyHashHex => do
      let hash ← brand sdk.isKeyHash stakeKeyHashHex
      return .stakeRegistration hash
  | .stakeDeregistration stakeKeyHashHex => do
      let hash ← brand sdk.isKeyHash stakeKeyHashHex
      return .stakeDeregistration hash
  | .stakeDelegation stakeKeyHashHex poolKeyHashHex => do
      let hash ← brand sdk.isKeyHash stakeKeyHashHex
      let pool ← brand sdk.isKeyHash poolKeyHashHex
      return .stakeDelegation hash pool

/-- The core input of a selected one. -/
def buildCoreInput (sdk : CardanoSdk) (input : TxInput) : Result TxInput := do
  let txId ← brand sdk.isTransactionId input.txHashHex
  return { txHashHex := txId, index := input.index }

/-- The core withdrawal of an entry of the map. -/
def buildCoreWithdrawal (sdk : CardanoSdk) (entry : String × ℤ) : Result (String × ℤ) := do
  let stakeAddress ← brand sdk.isRewardAccount entry.1
  return (stakeAddress, entry.2)

/-- Source: `tx/tx-builder.ts`, `buildTransactionBody`. -/
def buildTransactionBody (sdk : CardanoSdk) (params : TxBodyParams) : Result TxBody := do
  let inputs ← params.inputs.mapM (buildCoreInput sdk)
  let address ← brand sdk.isPaymentAddress params.outputAddress
  let certificates ← (params.certificates.getD []).mapM (buildCoreCertificate sdk)
  let withdrawals ← (params.withdrawals.getD []).mapM (buildCoreWithdrawal sdk)
  return {
    inputs
    outputs := [{ address, coins := params.outputLovelaces }]
    fee := params.fee
    invalidHereafter := params.ttl
    certificates
    withdrawals }

/-- Source: `tx/tx-builder.ts`, `buildSignedTransaction`. -/
def buildSignedTransaction (sdk : CardanoSdk) (body : TxBody) (witnesses : List TxWitness) :
    Result SignedTransaction :=
  let tx : SignedTransaction := { body, witnesses }
  if sdk.isValid tx then .ok tx
  else
    .error (.signing .invalidSigningArgs
      "Transaction failed validity check — verify inputs, fee, and output values.")

/-! ## What the helpers agree on -/

/-- A mapping that can only return its argument returns the list. -/
theorem mapM_eq_self {α : Type} {f : α → Result α} (hf : ∀ a b, f a = .ok b → b = a) {l r : List α}
    (h : l.mapM f = .ok r) : r = l := by
  have heach : List.Forall₂ (fun a b => b = a) l r := (mapM_eq_ok.mp h).imp hf
  exact (List.forall₂_eq_eq_eq ▸ heach.flip : r = l)

theorem buildCoreInput_eq_ok {sdk : CardanoSdk} (i j : TxInput)
    (h : buildCoreInput sdk i = .ok j) : j = i := by
  obtain ⟨txId, hbrand, h⟩ := bind_eq_ok.mp h
  rw [← Except.ok.inj h, brand_eq_ok hbrand]

theorem buildCoreWithdrawal_eq_ok {sdk : CardanoSdk} (v w : String × ℤ)
    (h : buildCoreWithdrawal sdk v = .ok w) : w = v := by
  obtain ⟨address, hbrand, h⟩ := bind_eq_ok.mp h
  rw [← Except.ok.inj h, brand_eq_ok hbrand]

theorem buildCoreCertificate_eq_ok {sdk : CardanoSdk} (c d : CardanoCertificate)
    (h : buildCoreCertificate sdk c = .ok d) : d = c := by
  cases c with
  | stakeRegistration key =>
      obtain ⟨hash, hbrand, h⟩ := bind_eq_ok.mp h
      rw [← Except.ok.inj h, brand_eq_ok hbrand]
  | stakeDeregistration key =>
      obtain ⟨hash, hbrand, h⟩ := bind_eq_ok.mp h
      rw [← Except.ok.inj h, brand_eq_ok hbrand]
  | stakeDelegation key pool =>
      obtain ⟨hash, hbrand, h⟩ := bind_eq_ok.mp h
      obtain ⟨poolHash, hpool, h⟩ := bind_eq_ok.mp h
      rw [← Except.ok.inj h, brand_eq_ok hbrand, brand_eq_ok hpool]

/-- **A body carries its parameters.** -/
theorem buildTransactionBody_eq_ok {sdk : CardanoSdk} {params : TxBodyParams} {body : TxBody}
    (h : buildTransactionBody sdk params = .ok body) :
    body =
      { inputs := params.inputs
        outputs := [{ address := params.outputAddress, coins := params.outputLovelaces }]
        fee := params.fee
        invalidHereafter := params.ttl
        certificates := params.certificates.getD []
        withdrawals := params.withdrawals.getD [] } := by
  obtain ⟨inputs, hinputs, h⟩ := bind_eq_ok.mp h
  obtain ⟨address, haddress, h⟩ := bind_eq_ok.mp h
  obtain ⟨certificates, hcertificates, h⟩ := bind_eq_ok.mp h
  obtain ⟨withdrawals, hwithdrawals, h⟩ := bind_eq_ok.mp h
  rw [← Except.ok.inj h, mapM_eq_self buildCoreInput_eq_ok hinputs, brand_eq_ok haddress,
    mapM_eq_self buildCoreCertificate_eq_ok hcertificates,
    mapM_eq_self buildCoreWithdrawal_eq_ok hwithdrawals]

/-- A field left out when its list is empty stands for that list. -/
theorem getD_isEmpty {α : Type} (l : List α) :
    (if l.isEmpty then none else some l).getD [] = l := by
  cases l <;> rfl

/-- A signed transaction is its body and its witnesses. -/
theorem buildSignedTransaction_eq_ok {sdk : CardanoSdk} {body : TxBody} {witnesses : List TxWitness}
    {tx : SignedTransaction} (h : buildSignedTransaction sdk body witnesses = .ok tx) :
    tx = { body, witnesses } := by
  simp only [buildSignedTransaction] at h
  split at h
  · exact (Except.ok.inj h).symm
  · cases h

/-- The number of stake keys the certificates register. -/
def registrations (certificates : List CardanoCertificate) : ℕ :=
  certificates.countP fun
    | .stakeRegistration _ => true
    | _ => false

/-- The number of stake keys the certificates deregister. -/
def deregistrations (certificates : List CardanoCertificate) : ℕ :=
  certificates.countP fun
    | .stakeDeregistration _ => true
    | _ => false

/-- The refund the body of a transaction counts on. -/
def keyDepositRefund (transaction : Transaction) (keyDeposit : ℤ) : ℤ :=
  if transaction.type = .undelegate then keyDeposit else 0

/-- Certificates and amounts agree: the requirement pays a deposit for every key registered, and
the refund returns one for every key deregistered. -/
theorem certificates_agree {sdk : CardanoSdk} {tx : Transaction} {stakeKeyHashHex : String}
    {registered : Bool} {certificates : List CardanoCertificate} {fee keyDeposit required : ℤ}
    (hcerts : buildCertificates sdk tx stakeKeyHashHex registered = .ok certificates)
    (hrequired : computeRequiredLovelaces tx fee keyDeposit registered = .ok required) :
    required = fee + keyDeposit * registrations certificates ∧
      keyDepositRefund tx keyDeposit = keyDeposit * deregistrations certificates := by
  cases tx with
  | delegate base isMax validator resource =>
      obtain ⟨v, -, h⟩ := bind_eq_ok.mp hcerts
      obtain ⟨pool, -, h⟩ := bind_eq_ok.mp h
      rw [← Except.ok.inj h, ← Except.ok.inj hrequired]
      cases registered <;>
        simp [delegationCertificates, registrations, deregistrations, keyDepositRefund,
          Transaction.type]
  | redelegate base isMax fromValidator toValidator =>
      obtain ⟨pool, -, h⟩ := bind_eq_ok.mp hcerts
      rw [← Except.ok.inj h, ← Except.ok.inj hrequired]
      cases registered <;>
        simp [delegationCertificates, registrations, deregistrations, keyDepositRefund,
          Transaction.type]
  | undelegate base isMax validator resource stakeAccount =>
      rw [← Except.ok.inj hcerts, ← Except.ok.inj hrequired]
      simp [registrations, deregistrations, keyDepositRefund, Transaction.type]
  | claimRewards base validator =>
      rw [← Except.ok.inj hcerts, ← Except.ok.inj hrequired]
      simp [registrations, deregistrations, keyDepositRefund, Transaction.type]
  | claimDelegate base validator index stakeAccount => cases hrequired
  | vote base validator => cases hrequired

/-- An unregistered key is registered before it delegates. -/
theorem registration_before_delegation {sdk : CardanoSdk} {tx : Transaction}
    {stakeKeyHashHex : String} {certificates : List CardanoCertificate}
    (hcerts : buildCertificates sdk tx stakeKeyHashHex false = .ok certificates)
    {pre post : List CardanoCertificate} {key pool : String}
    (hsplit : certificates = pre ++ .stakeDelegation key pool :: post) :
    .stakeRegistration key ∈ pre := by
  have hdelegation : ∀ p, certificates = delegationCertificates stakeKeyHashHex p false →
      .stakeRegistration key ∈ pre := by
    intro p hp
    rw [hsplit] at hp
    match pre, hp with
    | [], hp => simp [delegationCertificates] at hp
    | c :: pre, hp =>
        simp only [delegationCertificates, Bool.false_eq_true, if_false, List.cons_append,
          List.nil_append, List.cons.injEq] at hp
        obtain ⟨rfl, hp⟩ := hp
        match pre, hp with
        | [], hp =>
            simp only [List.nil_append, List.cons.injEq,
              CardanoCertificate.stakeDelegation.injEq] at hp
            simp [hp.1.1]
        | _ :: _, hp => simp at hp
  cases tx with
  | delegate base isMax validator resource =>
      obtain ⟨v, -, h⟩ := bind_eq_ok.mp hcerts
      obtain ⟨p, -, h⟩ := bind_eq_ok.mp h
      exact hdelegation p (Except.ok.inj h).symm
  | redelegate base isMax fromValidator toValidator =>
      obtain ⟨p, -, h⟩ := bind_eq_ok.mp hcerts
      exact hdelegation p (Except.ok.inj h).symm
  | undelegate base isMax validator resource stakeAccount =>
      rw [← Except.ok.inj hcerts] at hsplit
      cases pre <;> simp at hsplit
  | claimDelegate base validator index stakeAccount =>
      rw [← Except.ok.inj hcerts] at hsplit
      simp at hsplit
  | claimRewards base validator =>
      rw [← Except.ok.inj hcerts] at hsplit
      simp at hsplit
  | vote base validator =>
      rw [← Except.ok.inj hcerts] at hsplit
      simp at hsplit

/-- The withdrawals of a transaction: the whole reward balance, or nothing. -/
theorem buildWithdrawals_eq_ok {sdk : CardanoSdk} {tx : Transaction} {stakeKeyHashHex : String}
    {rewardsOnChain : ℤ} (h0 : 0 ≤ rewardsOnChain) {withdrawals : List (String × ℤ)}
    (h : buildWithdrawals sdk tx stakeKeyHashHex rewardsOnChain = .ok withdrawals) :
    (withdrawals.map Prod.snd).sum = rewardAccountWithdrawal tx rewardsOnChain ∧
      ∀ w ∈ withdrawals, w.2 = rewardsOnChain := by
  have hcases : rewardAccountWithdrawal tx rewardsOnChain = rewardsOnChain ∨
      rewardAccountWithdrawal tx rewardsOnChain = 0 := by
    unfold rewardAccountWithdrawal
    split
    · exact Or.inl rfl
    · exact Or.inr rfl
  unfold buildWithdrawals at h
  by_cases hle : rewardAccountWithdrawal tx rewardsOnChain ≤ 0
  · simp only [if_pos hle] at h
    rw [← Except.ok.inj h]
    refine ⟨?_, by simp⟩
    simp only [List.map_nil, List.sum_nil]
    omega
  · simp only [if_neg hle] at h
    obtain ⟨-, -, h⟩ := bind_eq_ok.mp h
    obtain ⟨account, -, h⟩ := bind_eq_ok.mp h
    rw [← Except.ok.inj h]
    refine ⟨by simp, ?_⟩
    simp only [List.mem_singleton, forall_eq]
    omega

end GuardianStake.Cardano
