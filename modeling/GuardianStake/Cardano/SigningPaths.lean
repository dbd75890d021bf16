import GuardianStake.Cardano.SignService

/-!
# The two signing paths, cut at the chain

`sign` and `prehash` check their arguments, resolve a body, and end in signatures or in a hash.

* `sign_eq`, `prehash_eq` — either call as its checks, the body and its end.
* `signChecks_eq_ok`, `prehashChecks_eq_ok` — what the checks ask for.
-/

namespace GuardianStake.Cardano

open Sdk

/-- What `sign` checks before it reads the chain. It goes on with the private keys and the fee. -/
def signChecks (sdk : CardanoSdk) (args : CardanoSigningWithPrivateKey) :
    Result (String × String × ℤ) := do
  let paymentPrivHex ← parseCardanoPrivateKey sdk args.paymentPrivateKey
  let stakingPrivHex ← parseCardanoPrivateKey sdk args.stakingPrivateKey
  let account := args.transaction.account.getD ""
  if account = "" then
    throw (.validation .invalidAddress
      "transaction.account (payment address, addr1...) is required for Cardano signing.")
  let .utxoFee _ total := args.fee
    | throw (.signing .invalidFeeType
        "Cardano transactions require a `UtxoFee`. Call `estimateFee()` first.")
  checkIfPaymentAddressIsValid sdk account
  let addrCreds ← getBaseAddressCredentials sdk account
  if !sameHex addrCreds.paymentKeyHashHex (sdk.keyHash (sdk.toPublic paymentPrivHex)) then
    throw (.signing .invalidSigningArgs
      ("paymentPrivateKey does not correspond to transaction.account "
        ++ "(payment credential mismatch)."))
  if !sameHex addrCreds.stakeKeyHashHex (sdk.keyHash (sdk.toPublic stakingPrivHex)) then
    throw (.signing .invalidSigningArgs
      "stakingPrivateKey does not correspond to transaction.account (stake credential mismatch).")
  return (paymentPrivHex, stakingPrivHex, total)

/-- What `prehash` checks before it reads the chain. It goes on with the staking key and the
fee. -/
def prehashChecks (sdk : CardanoSdk) (args : CardanoPrehashArgs) : Result (String × ℤ) := do
  let account := args.transaction.account.getD ""
  if account = "" then
    throw (.validation .invalidAddress
      "transaction.account (payment address, addr1...) is required.")
  let .utxoFee _ total := args.fee
    | throw (.signing .invalidFeeType
        "Cardano prehash requires a `UtxoFee`. Call `estimateFee()` first.")
  let stakingPublicKey ← parseCardanoPublicKey sdk args.stakingPublicKey
  checkIfPaymentAddressIsValid sdk account
  let addrCreds ← getBaseAddressCredentials sdk account
  if !sameHex addrCreds.stakeKeyHashHex (sdk.keyHash stakingPublicKey) then
    throw (.signing .invalidSigningArgs
      "stakingPublicKey does not correspond to transaction.account (stake credential mismatch).")
  return (stakingPublicKey, total)

/-- The signed transaction of a body under two private keys. -/
def signBody (sdk : CardanoSdk) (paymentPrivHex stakingPrivHex : String) (body : TxBody) :
    Result SignedTransaction :=
  buildSignedTransaction sdk body
    [{ vkeyHex := sdk.toPublic paymentPrivHex
       sigHex := sdk.sign paymentPrivHex (sdk.bodyHash body) },
      { vkeyHex := sdk.toPublic stakingPrivHex
        sigHex := sdk.sign stakingPrivHex (sdk.bodyHash body) }]

section cut

variable {sdk : CardanoSdk} {rpc : BlockfrostRpcClient}

/-- **Direct signing**: the checks, the body, the signatures. -/
theorem sign_eq (args : CardanoSigningWithPrivateKey) :
    sign sdk rpc args = (signChecks sdk args >>= fun (paymentPrivHex, stakingPrivHex, total) =>
      resolveBody sdk rpc args.transaction (args.transaction.account.getD "")
        (sdk.keyHash (sdk.toPublic stakingPrivHex)) total >>=
      signBody sdk paymentPrivHex stakingPrivHex) := by
  simp only [sign, signChecks]
  cases parseCardanoPrivateKey sdk args.paymentPrivateKey with
  | error e => rfl
  | ok paymentPrivHex =>
  cases parseCardanoPrivateKey sdk args.stakingPrivateKey with
  | error e => rfl
  | ok stakingPrivHex =>
  by_cases haccount : args.transaction.account.getD "" = ""
  · simp only [if_pos haccount]
    rfl
  simp only [if_neg haccount]
  cases args.fee with
  | gasFee | resourceFee | solanaFee => rfl
  | utxoFee txSizeBytes total =>
  cases checkIfPaymentAddressIsValid sdk (args.transaction.account.getD "") with
  | error e => rfl
  | ok _ =>
  cases getBaseAddressCredentials sdk (args.transaction.account.getD "") with
  | error e => rfl
  | ok credentials =>
  simp only [bind, Except.bind]
  split_ifs <;> rfl

/-- **Prehash**: the checks, the body, its hash. -/
theorem prehash_eq (args : CardanoPrehashArgs) :
    prehash sdk rpc args = (prehashChecks sdk args >>= fun (stakingPublicKey, total) =>
      resolveBody sdk rpc args.transaction (args.transaction.account.getD "")
        (sdk.keyHash stakingPublicKey) total >>=
      fun body => .ok (sdk.bodyHash body, body)) := by
  simp only [prehash, prehashChecks]
  by_cases haccount : args.transaction.account.getD "" = ""
  · simp only [if_pos haccount]
    rfl
  simp only [if_neg haccount]
  cases args.fee with
  | gasFee | resourceFee | solanaFee => rfl
  | utxoFee txSizeBytes total =>
  cases parseCardanoPublicKey sdk args.stakingPublicKey with
  | error e => rfl
  | ok stakingPublicKey =>
  cases checkIfPaymentAddressIsValid sdk (args.transaction.account.getD "") with
  | error e => rfl
  | ok _ =>
  cases getBaseAddressCredentials sdk (args.transaction.account.getD "") with
  | error e => rfl
  | ok credentials =>
  simp only [bind, Except.bind]
  split_ifs <;> rfl

/-- What `sign` asks for before it reads the chain. -/
theorem signChecks_eq_ok {args : CardanoSigningWithPrivateKey}
    {paymentPrivHex stakingPrivHex : String} {total : ℤ} :
    signChecks sdk args = .ok (paymentPrivHex, stakingPrivHex, total) ↔
      parseCardanoPrivateKey sdk args.paymentPrivateKey = .ok paymentPrivHex ∧
      parseCardanoPrivateKey sdk args.stakingPrivateKey = .ok stakingPrivHex ∧
      args.transaction.account.getD "" ≠ "" ∧
      (∃ txSizeBytes, args.fee = .utxoFee txSizeBytes total) ∧
      checkIfPaymentAddressIsValid sdk (args.transaction.account.getD "") = .ok () ∧
      ∃ credentials,
        getBaseAddressCredentials sdk (args.transaction.account.getD "") = .ok credentials ∧
        sameHex credentials.paymentKeyHashHex (sdk.keyHash (sdk.toPublic paymentPrivHex)) = true ∧
        sameHex credentials.stakeKeyHashHex (sdk.keyHash (sdk.toPublic stakingPrivHex)) =
          true := by
  simp only [signChecks, bind_eq_ok]
  constructor
  · rintro ⟨payment, hpayment, staking, hstaking, h⟩
    obtain ⟨haccount, h⟩ := guard_eq_ok.mp h
    cases hfee : args.fee with
    | gasFee | resourceFee | solanaFee => simp [hfee, throw, throwThe, MonadExceptOf.throw] at h
    | utxoFee txSizeBytes total' =>
        simp only [hfee] at h
        obtain ⟨_, hvalid, h⟩ := bind_eq_ok.mp h
        obtain ⟨credentials, hcredentials, h⟩ := bind_eq_ok.mp h
        obtain ⟨hpay, h⟩ := guard_eq_ok.mp h
        obtain ⟨hstake, h⟩ := guard_eq_ok.mp h
        obtain ⟨rfl, rfl, rfl⟩ := by simpa using Except.ok.inj h
        exact ⟨hpayment, hstaking, haccount, ⟨_, rfl⟩, hvalid, credentials, hcredentials,
          by simpa using hpay, by simpa using hstake⟩
  · rintro ⟨hpayment, hstaking, haccount, ⟨txSizeBytes, hfee⟩, hvalid, credentials, hcredentials,
      hpay, hstake⟩
    refine ⟨_, hpayment, _, hstaking, ?_⟩
    simp only [if_neg haccount, hfee, hvalid, hcredentials, hpay, hstake, bind, Except.bind]
    rfl

/-- What `prehash` asks for before it reads the chain. -/
theorem prehashChecks_eq_ok {args : CardanoPrehashArgs} {stakingPublicKey : String} {total : ℤ} :
    prehashChecks sdk args = .ok (stakingPublicKey, total) ↔
      args.transaction.account.getD "" ≠ "" ∧
      (∃ txSizeBytes, args.fee = .utxoFee txSizeBytes total) ∧
      parseCardanoPublicKey sdk args.stakingPublicKey = .ok stakingPublicKey ∧
      checkIfPaymentAddressIsValid sdk (args.transaction.account.getD "") = .ok () ∧
      ∃ credentials,
        getBaseAddressCredentials sdk (args.transaction.account.getD "") = .ok credentials ∧
        sameHex credentials.stakeKeyHashHex (sdk.keyHash stakingPublicKey) = true := by
  simp only [prehashChecks]
  constructor
  · intro h
    obtain ⟨haccount, h⟩ := guard_eq_ok.mp h
    cases hfee : args.fee with
    | gasFee | resourceFee | solanaFee => simp [hfee, throw, throwThe, MonadExceptOf.throw] at h
    | utxoFee txSizeBytes total' =>
        simp only [hfee] at h
        obtain ⟨key, hkey, h⟩ := bind_eq_ok.mp h
        obtain ⟨_, hvalid, h⟩ := bind_eq_ok.mp h
        obtain ⟨credentials, hcredentials, h⟩ := bind_eq_ok.mp h
        obtain ⟨hstake, h⟩ := guard_eq_ok.mp h
        obtain ⟨rfl, rfl⟩ := by simpa using Except.ok.inj h
        exact ⟨haccount, ⟨_, rfl⟩, hkey, hvalid, credentials, hcredentials, by simpa using hstake⟩
  · rintro ⟨haccount, ⟨txSizeBytes, hfee⟩, hkey, hvalid, credentials, hcredentials, hstake⟩
    simp only [if_neg haccount, hfee, hkey, hvalid, hcredentials, hstake, bind, Except.bind]
    rfl

end cut

end GuardianStake.Cardano
