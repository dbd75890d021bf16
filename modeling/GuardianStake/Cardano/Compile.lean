import GuardianStake.Cardano.FeeService

/-!
# Compiling a Cardano transaction from external signatures

`compile` of `services/sign-service.ts`: the signature string is taken apart, its keys are checked
against the account, the body is read back from the CBOR that `prehash` put into the arguments, and
both signatures are verified for its hash.

* `Serialization.Lawful` — what the package relies on `@cardano-sdk` for.
* `compile_eq_ok` — what a compiled transaction has passed.
* `compile_agrees_sign` — **external signing is direct signing**, and whatever else is compiled
  carries signatures of its own hash.
-/

namespace GuardianStake.Cardano

open Sdk

/-! ## Serialized transactions -/

/-- What signing calls in `@cardano-sdk` beside `CardanoSdk`. Bytes, keys, hashes and signatures are
strings of hex. -/
structure Serialization where
  /-- `TransactionBody.toCbor`. -/
  bodyToCbor : TxBody → String
  /-- `TransactionBody.fromCbor` of a `HexBlob`. -/
  bodyFromCbor : String → Result TxBody
  /-- `Transaction.toCbor`. -/
  toCbor : SignedTransaction → String
  /-- `Ed25519PublicKey.verify`. -/
  verify : (publicKey signature message : String) → Bool

/-- The documented behaviour of `@cardano-sdk`: a body is read back from its bytes and keeps them,
its hash and the transactions it is in are made of these bytes, keys and signatures are hex of 32
and 64 bytes, and a signature verifies for the hash it was made over and for no other, in whatever
case its hex is written. -/
structure Serialization.Lawful (serialization : Serialization) (sdk : CardanoSdk) : Prop where
  fromCbor_toCbor : ∀ body, ∃ body',
    serialization.bodyFromCbor (serialization.bodyToCbor body) = .ok body' ∧
      serialization.bodyToCbor body' = serialization.bodyToCbor body
  bodyToCbor_ne_empty : ∀ body, serialization.bodyToCbor body ≠ ""
  bodyHash_congr : ∀ {body body'},
    serialization.bodyToCbor body = serialization.bodyToCbor body' →
      sdk.bodyHash body = sdk.bodyHash body'
  isValid_congr : ∀ {body body'} witnesses,
    serialization.bodyToCbor body = serialization.bodyToCbor body' →
      sdk.isValid { body, witnesses } = sdk.isValid { body := body', witnesses }
  toCbor_congr : ∀ {body body'} witnesses,
    serialization.bodyToCbor body = serialization.bodyToCbor body' →
      serialization.toCbor { body, witnesses } = serialization.toCbor { body := body', witnesses }
  colon_of_isHexString : ∀ {value n}, sdk.isHexString value n = true → ':' ∉ value.toList
  toPublic_isHexString : ∀ {privateKey}, sdk.isHexString privateKey 64 = true →
    sdk.isHexString (sdk.toPublic privateKey) 64 = true
  sign_isHexString : ∀ {privateKey} body, sdk.isHexString privateKey 64 = true →
    sdk.isHexString (sdk.sign privateKey (sdk.bodyHash body)) 128 = true
  verify_sign : ∀ {privateKey publicKey signature} body body',
    sdk.isHexString privateKey 64 = true → sameHex publicKey (sdk.toPublic privateKey) = true →
    sameHex signature (sdk.sign privateKey (sdk.bodyHash body)) = true →
    (serialization.verify publicKey signature (sdk.bodyHash body') = true ↔
      sdk.bodyHash body = sdk.bodyHash body')

theorem sameHex_self (value : String) : sameHex value value = true := by simp [sameHex]

/-! ## The code -/

/-- `value.length`: code units of UTF-16. -/
def utf16Length (value : String) : ℕ :=
  (value.toList.map fun c => if c.toNat < 0x10000 then 1 else 2).sum

/-- Source: `validations.ts`, `assertHexBytes`. -/
def assertHexBytes (sdk : CardanoSdk) (value : String) (byteLength : ℕ) (fieldName : String) :
    Result Unit :=
  if sdk.isHexString value (byteLength * 2) then .ok ()
  else
    .error (.signing .invalidSigningArgs
      (s!"{fieldName} must be {byteLength} bytes ({byteLength * 2} hex characters), got "
        ++ s!"{utf16Length value}."))

/-- The fields `compile` reads of its `signArgs`, which need not come from `prehash`. -/
structure CompileSignArgs where
  transaction : Transaction
  fee : Fee
  /-- Missing when the arguments are not `CardanoPrehashArgs`. -/
  stakingPublicKey : Option String
  txBodyCbor : Option String
  deriving DecidableEq, Repr

/-- Source: `entity/sign-types.ts`, `CompileArgs`. -/
structure CompileArgs where
  signArgs : CompileSignArgs
  signature : String
  deriving DecidableEq, Repr

/-- The four parts of a signature string. -/
structure SignatureParts where
  paymentSigHex : String
  stakingVKeyHex : String
  stakingSigHex : String
  paymentVKeyHex : String
  deriving DecidableEq, Repr

/-- The local `witnesses`. -/
def SignatureParts.witnesses (parts : SignatureParts) : List TxWitness :=
  [{ vkeyHex := parts.paymentVKeyHex, sigHex := parts.paymentSigHex },
    { vkeyHex := parts.stakingVKeyHex, sigHex := parts.stakingSigHex }]

/-- The signature string of four parts. -/
def SignatureParts.text (parts : SignatureParts) : String :=
  parts.paymentSigHex ++ ":" ++ parts.stakingVKeyHex ++ ":" ++ parts.stakingSigHex ++ ":"
    ++ parts.paymentVKeyHex

section code

variable (sdk : CardanoSdk) (serialization : Serialization)

/-- The head of `compile`: the signature string in its parts. -/
def parseSignature (signature : String) : Result SignatureParts := do
  let [paymentSigHex, stakingVKeyHex, stakingSigHex, paymentVKeyHex] :=
      (signature.toList.splitOn ':').map String.ofList
    | throw (.signing .invalidSigningArgs
        ("For Cardano, `signature` must be "
          ++ "`paymentSigHex:stakingVKeyHex:stakingSigHex:paymentVKeyHex`."))
  assertHexBytes sdk paymentSigHex 64 "paymentSigHex"
  assertHexBytes sdk stakingVKeyHex 32 "stakingVKeyHex"
  assertHexBytes sdk stakingSigHex 64 "stakingSigHex"
  assertHexBytes sdk paymentVKeyHex 32 "paymentVKeyHex"
  if sameHex paymentVKeyHex stakingVKeyHex then
    throw (.signing .invalidSigningArgs
      "paymentVKeyHex and stakingVKeyHex must be different keys.")
  return { paymentSigHex, stakingVKeyHex, stakingSigHex, paymentVKeyHex }

/-- What `compile` checks of its transaction: the account, the fee, and that the two keys are the
account's. -/
def checkWitnessKeys (signArgs : CompileSignArgs) (parts : SignatureParts) : Result Unit := do
  let account := signArgs.transaction.account.getD ""
  if account = "" then
    throw (.validation .invalidAddress "transaction.account is required.")
  let .utxoFee _ _ := signArgs.fee
    | throw (.signing .invalidFeeType "Cardano compile requires a `UtxoFee`.")
  checkIfPaymentAddressIsValid sdk account
  let addrCreds ← getBaseAddressCredentials sdk account
  if !sameHex addrCreds.paymentKeyHashHex (sdk.keyHash parts.paymentVKeyHex) then
    throw (.signing .invalidSigningArgs
      "paymentVKeyHex does not correspond to transaction.account (payment credential mismatch).")
  if !sameHex addrCreds.stakeKeyHashHex (sdk.keyHash parts.stakingVKeyHex) then
    throw (.signing .invalidSigningArgs
      "stakingVKeyHex does not correspond to transaction.account (stake credential mismatch).")

/-- The body that `prehash` put into the arguments, for the staking key it was given. -/
def prehashedBody (signArgs : CompileSignArgs) (stakingVKeyHex : String) : Result TxBody := do
  let missing : Thrown := .signing .invalidSigningArgs
    "compile() requires signArgs produced by prehash(). No serialized tx body found."
  let some stakingPublicKey := signArgs.stakingPublicKey
    | throw missing
  let expectedKey ← brand (fun value => sdk.isHexString value 64) stakingPublicKey
  if sdk.keyHash stakingVKeyHex ≠ sdk.keyHash expectedKey then
    throw (.signing .invalidSigningArgs
      ("stakingVKeyHex does not match the stakingPublicKey that was used in prehash(). "
        ++ "The compiled transaction would be invalid."))
  let txBodyCbor := signArgs.txBodyCbor.getD ""
  if txBodyCbor = "" then throw missing
  serialization.bodyFromCbor txBodyCbor

/-- The two verifications. -/
def verifySignatures (body : TxBody) (parts : SignatureParts) : Result Unit := do
  let bodyHash := sdk.bodyHash body
  if !serialization.verify parts.paymentVKeyHex parts.paymentSigHex bodyHash then
    throw (.signing .signatureMismatch
      "paymentSigHex does not verify against the transaction body hash.")
  if !serialization.verify parts.stakingVKeyHex parts.stakingSigHex bodyHash then
    throw (.signing .signatureMismatch
      "stakingSigHex does not verify against the transaction body hash.")

/-- Source: `services/sign-service.ts`, `compile`. -/
def compile (args : CompileArgs) : Result SignedTransaction := do
  let parts ← parseSignature sdk args.signature
  checkWitnessKeys sdk args.signArgs parts
  let body ← prehashedBody sdk serialization args.signArgs parts.stakingVKeyHex
  verifySignatures sdk serialization body parts
  buildSignedTransaction sdk body parts.witnesses

/-- The `PrehashResult` of `prehash`: the hash to sign, and the arguments for `compile`. -/
def prehashResult (rpc : BlockfrostRpcClient) (args : CardanoPrehashArgs) :
    Result (String × CompileSignArgs) := do
  let (hash, body) ← prehash sdk rpc args
  return (hash,
    { transaction := args.transaction
      fee := args.fee
      stakingPublicKey := some args.stakingPublicKey
      txBodyCbor := some (serialization.bodyToCbor body) })

/-- The signatures of the holder of two private keys over a hash. -/
def signatureParts (paymentPrivHex stakingPrivHex hash : String) : SignatureParts where
  paymentSigHex := sdk.sign paymentPrivHex hash
  stakingVKeyHex := sdk.toPublic stakingPrivHex
  stakingSigHex := sdk.sign stakingPrivHex hash
  paymentVKeyHex := sdk.toPublic paymentPrivHex

/-- External signing: `prehash` with the staking public key, then `compile` with the signatures of
the two keys over the returned hash. -/
def signExternally (rpc : BlockfrostRpcClient) (transaction : Transaction) (fee : Fee)
    (paymentPrivHex stakingPrivHex : String) : Result SignedTransaction := do
  let (hash, signArgs) ← prehashResult sdk serialization rpc
    { transaction, fee, stakingPublicKey := sdk.toPublic stakingPrivHex }
  compile sdk serialization
    { signArgs, signature := (signatureParts sdk paymentPrivHex stakingPrivHex hash).text }

/-- What either path returns to its caller: the transaction's CBOR. -/
def returnedCbor (outcome : Result SignedTransaction) : Result String := do
  let tx ← outcome
  return serialization.toCbor tx

end code

/-! ## What a compiled transaction has passed -/

section compile

variable {sdk : CardanoSdk} {serialization : Serialization}

theorem assertHexBytes_eq_ok {value fieldName : String} {byteLength : ℕ} :
    assertHexBytes sdk value byteLength fieldName = .ok () ↔
      sdk.isHexString value (byteLength * 2) = true := by
  unfold assertHexBytes
  split <;> simp_all

/-- The keys and signatures are hex of their lengths, and the keys differ. -/
structure SignatureParts.WellFormed (sdk : CardanoSdk) (parts : SignatureParts) : Prop where
  paymentSigHex : sdk.isHexString parts.paymentSigHex 128 = true
  stakingVKeyHex : sdk.isHexString parts.stakingVKeyHex 64 = true
  stakingSigHex : sdk.isHexString parts.stakingSigHex 128 = true
  paymentVKeyHex : sdk.isHexString parts.paymentVKeyHex 64 = true
  distinct : sameHex parts.paymentVKeyHex parts.stakingVKeyHex = false

/-- A signature string is parsed iff it consists of four well-formed parts. -/
theorem parseSignature_eq_ok {signature : String} {parts : SignatureParts} :
    parseSignature sdk signature = .ok parts ↔
      (signature.toList.splitOn ':').map String.ofList =
        [parts.paymentSigHex, parts.stakingVKeyHex, parts.stakingSigHex, parts.paymentVKeyHex] ∧
      parts.WellFormed sdk := by
  unfold parseSignature
  constructor
  · intro h
    split at h
    · next paymentSigHex stakingVKeyHex stakingSigHex paymentVKeyHex hsplit =>
        obtain ⟨_, h1, h⟩ := bind_eq_ok.mp h
        obtain ⟨_, h2, h⟩ := bind_eq_ok.mp h
        obtain ⟨_, h3, h⟩ := bind_eq_ok.mp h
        obtain ⟨_, h4, h⟩ := bind_eq_ok.mp h
        obtain ⟨hdistinct, h⟩ := guard_eq_ok.mp h
        rw [← Except.ok.inj h]
        exact ⟨hsplit, assertHexBytes_eq_ok.mp h1, assertHexBytes_eq_ok.mp h2,
          assertHexBytes_eq_ok.mp h3, assertHexBytes_eq_ok.mp h4, by simpa using hdistinct⟩
    · cases h
  · rintro ⟨hsplit, h1, h2, h3, h4, hdistinct⟩
    simp only [hsplit, assertHexBytes, Nat.reduceMul, h1, h2, h3, h4, hdistinct, if_true, bind,
      Except.bind]
    rfl

/-- The keys of a signature are those of the account it is compiled for. -/
theorem checkWitnessKeys_eq_ok {signArgs : CompileSignArgs} {parts : SignatureParts} :
    checkWitnessKeys sdk signArgs parts = .ok () ↔
      signArgs.transaction.account.getD "" ≠ "" ∧
      (∃ txSizeBytes total, signArgs.fee = .utxoFee txSizeBytes total) ∧
      checkIfPaymentAddressIsValid sdk (signArgs.transaction.account.getD "") = .ok () ∧
      ∃ credentials,
        getBaseAddressCredentials sdk (signArgs.transaction.account.getD "") = .ok credentials ∧
        sameHex credentials.paymentKeyHashHex (sdk.keyHash parts.paymentVKeyHex) = true ∧
        sameHex credentials.stakeKeyHashHex (sdk.keyHash parts.stakingVKeyHex) = true := by
  simp only [checkWitnessKeys]
  constructor
  · intro h
    obtain ⟨haccount, h⟩ := guard_eq_ok.mp h
    cases hfee : signArgs.fee with
    | gasFee | resourceFee | solanaFee => simp [hfee, throw, throwThe, MonadExceptOf.throw] at h
    | utxoFee txSizeBytes total =>
        simp only [hfee] at h
        obtain ⟨_, hvalid, h⟩ := bind_eq_ok.mp h
        obtain ⟨credentials, hcredentials, h⟩ := bind_eq_ok.mp h
        obtain ⟨hpayment, h⟩ := guard_eq_ok.mp h
        have hstake : sameHex credentials.stakeKeyHashHex
            (sdk.keyHash parts.stakingVKeyHex) = true := by
          by_contra hne
          rw [if_pos (by simpa using hne)] at h
          cases h
        exact ⟨haccount, ⟨_, _, rfl⟩, hvalid, credentials, hcredentials, by simpa using hpayment,
          hstake⟩
  · rintro ⟨haccount, ⟨txSizeBytes, total, hfee⟩, hvalid, credentials, hcredentials, hpayment,
      hstake⟩
    simp only [if_neg haccount, hfee, hvalid, hcredentials, hpayment, hstake, bind, Except.bind]
    rfl

/-- The body of a compiled transaction is decoded from the arguments. -/
theorem prehashedBody_eq_ok {signArgs : CompileSignArgs} {stakingVKeyHex : String}
    {body : TxBody} :
    prehashedBody sdk serialization signArgs stakingVKeyHex = .ok body ↔
      ∃ stakingPublicKey txBodyCbor, signArgs.stakingPublicKey = some stakingPublicKey ∧
        sdk.isHexString stakingPublicKey 64 = true ∧
        sdk.keyHash stakingVKeyHex = sdk.keyHash stakingPublicKey ∧
        signArgs.txBodyCbor = some txBodyCbor ∧ txBodyCbor ≠ "" ∧
        serialization.bodyFromCbor txBodyCbor = .ok body := by
  simp only [prehashedBody]
  constructor
  · intro h
    cases hkey : signArgs.stakingPublicKey with
    | none => simp [hkey, throw, throwThe, MonadExceptOf.throw] at h
    | some stakingPublicKey =>
        simp only [hkey] at h
        obtain ⟨expectedKey, hbrand, h⟩ := bind_eq_ok.mp h
        obtain ⟨hsame, h⟩ := guard_eq_ok.mp h
        obtain ⟨hcbor, hdecoded⟩ := guard_eq_ok.mp h
        obtain rfl := brand_eq_ok hbrand
        have hhex : sdk.isHexString expectedKey 64 = true := by
          by_contra hno
          simp [brand, hno] at hbrand
        cases htext : signArgs.txBodyCbor with
        | none => exact absurd (by rw [htext]; rfl) hcbor
        | some txBodyCbor =>
            rw [htext] at hcbor hdecoded
            exact ⟨expectedKey, txBodyCbor, rfl, hhex, not_not.mp hsame, rfl, hcbor, hdecoded⟩
  · rintro ⟨stakingPublicKey, txBodyCbor, hkey, hhex, hsame, hcbor, hne, hbody⟩
    simp only [hkey, brand, hhex, if_true, hsame, ne_eq, not_true_eq_false, if_false, hcbor,
      Option.getD_some, if_neg hne, hbody, bind, Except.bind]

/-- Both signatures verify for the hash of the body. -/
theorem verifySignatures_eq_ok {body : TxBody} {parts : SignatureParts} :
    verifySignatures sdk serialization body parts = .ok () ↔
      serialization.verify parts.paymentVKeyHex parts.paymentSigHex (sdk.bodyHash body) = true ∧
      serialization.verify parts.stakingVKeyHex parts.stakingSigHex (sdk.bodyHash body) =
        true := by
  unfold verifySignatures
  cases hpayment :
    serialization.verify parts.paymentVKeyHex parts.paymentSigHex (sdk.bodyHash body) <;>
  cases hstaking :
    serialization.verify parts.stakingVKeyHex parts.stakingSigHex (sdk.bodyHash body) <;>
  simp [hpayment, hstaking, throw, throwThe, MonadExceptOf.throw, bind, Except.bind, pure,
    Except.pure]

/-- A transaction is compiled iff its signature is parsed, its keys are the account's, its body is
decoded, the signatures verify and it is valid. -/
theorem compile_eq_ok {args : CompileArgs} {tx : SignedTransaction} :
    compile sdk serialization args = .ok tx ↔
      ∃ parts body, parseSignature sdk args.signature = .ok parts ∧
        checkWitnessKeys sdk args.signArgs parts = .ok () ∧
        prehashedBody sdk serialization args.signArgs parts.stakingVKeyHex = .ok body ∧
        verifySignatures sdk serialization body parts = .ok () ∧
        buildSignedTransaction sdk body parts.witnesses = .ok tx := by
  simp only [compile, bind_eq_ok]
  constructor
  · rintro ⟨parts, hparts, ⟨⟩, hkeys, body, hbody, ⟨⟩, hverify, htx⟩
    exact ⟨parts, body, hparts, hkeys, hbody, hverify, htx⟩
  · rintro ⟨parts, body, hparts, hkeys, hbody, hverify, htx⟩
    exact ⟨parts, hparts, (), hkeys, body, hbody, (), hverify, htx⟩

/-- What a compiled transaction is, whatever the signature string and the arguments: its body is
the decoded one, and its two witnesses are distinct, belong to the credentials of the account and
verify for the hash of that body. -/
structure CompiledFrom (sdk : CardanoSdk) (serialization : Serialization) (args : CompileArgs)
    (tx : SignedTransaction) : Prop where
  body : ∃ txBodyCbor, args.signArgs.txBodyCbor = some txBodyCbor ∧
    serialization.bodyFromCbor txBodyCbor = .ok tx.body
  witnesses : ∃ credentials payment staking,
    getBaseAddressCredentials sdk (args.signArgs.transaction.account.getD "") = .ok credentials ∧
    tx.witnesses = [payment, staking] ∧
    sameHex payment.vkeyHex staking.vkeyHex = false ∧
    sameHex credentials.paymentKeyHashHex (sdk.keyHash payment.vkeyHex) = true ∧
    sameHex credentials.stakeKeyHashHex (sdk.keyHash staking.vkeyHex) = true ∧
    ∀ w ∈ tx.witnesses, serialization.verify w.vkeyHex w.sigHex (sdk.bodyHash tx.body) = true

theorem compiledFrom_of_compile {args : CompileArgs} {tx : SignedTransaction}
    (h : compile sdk serialization args = .ok tx) : CompiledFrom sdk serialization args tx := by
  obtain ⟨parts, body, hparts, hkeys, hbody, hverify, htx⟩ := compile_eq_ok.mp h
  obtain ⟨-, hwf⟩ := parseSignature_eq_ok.mp hparts
  obtain ⟨-, -, -, credentials, hcredentials, hpayment, hstake⟩ := checkWitnessKeys_eq_ok.mp hkeys
  obtain ⟨stakingPublicKey, txBodyCbor, -, -, -, hcbor, -, hdecoded⟩ :=
    prehashedBody_eq_ok.mp hbody
  obtain ⟨hverifyPayment, hverifyStaking⟩ := verifySignatures_eq_ok.mp hverify
  rw [buildSignedTransaction_eq_ok htx]
  refine ⟨⟨txBodyCbor, hcbor, hdecoded⟩, credentials, _, _, hcredentials, rfl, hwf.distinct,
    hpayment, hstake, ?_⟩
  simp only [SignatureParts.witnesses, List.forall_mem_cons, List.not_mem_nil, false_implies,
    implies_true, and_true]
  exact ⟨hverifyPayment, hverifyStaking⟩

end compile

/-! ## External signing -/

section external

variable {sdk : CardanoSdk} {serialization : Serialization} {rpc : BlockfrostRpcClient}
  {transaction : Transaction} {fee : Fee} {paymentPrivHex stakingPrivHex : String}

/-- The text of four parts without colons is split into them. -/
theorem splitOn_text {parts : SignatureParts} (h1 : ':' ∉ parts.paymentSigHex.toList)
    (h2 : ':' ∉ parts.stakingVKeyHex.toList) (h3 : ':' ∉ parts.stakingSigHex.toList)
    (h4 : ':' ∉ parts.paymentVKeyHex.toList) :
    (parts.text.toList.splitOn ':').map String.ofList =
      [parts.paymentSigHex, parts.stakingVKeyHex, parts.stakingSigHex, parts.paymentVKeyHex] := by
  have htext : parts.text.toList = List.intercalate [':']
      [parts.paymentSigHex.toList, parts.stakingVKeyHex.toList, parts.stakingSigHex.toList,
        parts.paymentVKeyHex.toList] := by
    simp [SignatureParts.text, List.intercalate, List.intersperse]
  rw [htext, List.splitOn_intercalate ':' (by simp [h1, h2, h3, h4]) (by simp)]
  simp

/-- What the two keys sign is well formed. -/
theorem wellFormed_signatureParts (hlaw : serialization.Lawful sdk)
    (hpayment : sdk.isHexString paymentPrivHex 64 = true)
    (hstaking : sdk.isHexString stakingPrivHex 64 = true)
    (hdistinct : sameHex (sdk.toPublic paymentPrivHex) (sdk.toPublic stakingPrivHex) = false)
    (body : TxBody) :
    (signatureParts sdk paymentPrivHex stakingPrivHex (sdk.bodyHash body)).WellFormed sdk where
  paymentSigHex := hlaw.sign_isHexString body hpayment
  stakingVKeyHex := hlaw.toPublic_isHexString hstaking
  stakingSigHex := hlaw.sign_isHexString body hstaking
  paymentVKeyHex := hlaw.toPublic_isHexString hpayment
  distinct := hdistinct

/-- The signature string of well-formed parts is parsed into them. -/
theorem parseSignature_text (hlaw : serialization.Lawful sdk) {parts : SignatureParts}
    (hwf : parts.WellFormed sdk) : parseSignature sdk parts.text = .ok parts :=
  parseSignature_eq_ok.mpr ⟨splitOn_text (hlaw.colon_of_isHexString hwf.paymentSigHex)
    (hlaw.colon_of_isHexString hwf.stakingVKeyHex) (hlaw.colon_of_isHexString hwf.stakingSigHex)
    (hlaw.colon_of_isHexString hwf.paymentVKeyHex), hwf⟩

/-- The two private keys are those of an account at which staking is possible. -/
def OwnsAccount (sdk : CardanoSdk) (account paymentPrivHex stakingPrivHex : String) : Prop :=
  account ≠ "" ∧ checkIfPaymentAddressIsValid sdk account = .ok () ∧
    ∃ credentials, getBaseAddressCredentials sdk account = .ok credentials ∧
      sameHex credentials.paymentKeyHashHex (sdk.keyHash (sdk.toPublic paymentPrivHex)) = true ∧
      sameHex credentials.stakeKeyHashHex (sdk.keyHash (sdk.toPublic stakingPrivHex)) = true

/-- Success on either path: the keys are the account's, and the body resolved for the fee is signed
and serialized. -/
def SignsToCbor (sdk : CardanoSdk) (serialization : Serialization) (rpc : BlockfrostRpcClient)
    (transaction : Transaction) (fee : Fee) (paymentPrivHex stakingPrivHex cbor : String) : Prop :=
  OwnsAccount sdk (transaction.account.getD "") paymentPrivHex stakingPrivHex ∧
    ∃ txSizeBytes total body, fee = .utxoFee txSizeBytes total ∧
      resolveBody sdk rpc transaction (transaction.account.getD "")
        (sdk.keyHash (sdk.toPublic stakingPrivHex)) total = .ok body ∧
      returnedCbor serialization (signBody sdk paymentPrivHex stakingPrivHex body) = .ok cbor

theorem returnedCbor_bind {α : Type} {x : Result α} {f : α → Result SignedTransaction}
    {cbor : String} :
    returnedCbor serialization (x >>= f) = .ok cbor ↔
      ∃ a, x = .ok a ∧ returnedCbor serialization (f a) = .ok cbor := by
  cases x <;> simp [returnedCbor, bind, Except.bind]

/-- **Direct signing**, in these terms. -/
theorem returnedCbor_sign_iff {paymentPrivateKey stakingPrivateKey cbor : String}
    (hpayment : parseCardanoPrivateKey sdk paymentPrivateKey = .ok paymentPrivHex)
    (hstaking : parseCardanoPrivateKey sdk stakingPrivateKey = .ok stakingPrivHex) :
    returnedCbor serialization
        (sign sdk rpc { transaction, fee, paymentPrivateKey, stakingPrivateKey }) = .ok cbor ↔
      SignsToCbor sdk serialization rpc transaction fee paymentPrivHex stakingPrivHex cbor := by
  rw [sign_eq, returnedCbor_bind]
  constructor
  · rintro ⟨⟨payment, staking, total⟩, hchecks, h⟩
    obtain ⟨body, hbody, hsigned⟩ := returnedCbor_bind.mp h
    obtain ⟨hpayment', hstaking', haccount, ⟨txSizeBytes, hfee⟩, hvalid, hkeys⟩ :=
      signChecks_eq_ok.mp hchecks
    obtain rfl : paymentPrivHex = payment := Except.ok.inj (hpayment.symm.trans hpayment')
    obtain rfl : stakingPrivHex = staking := Except.ok.inj (hstaking.symm.trans hstaking')
    exact ⟨⟨haccount, hvalid, hkeys⟩, txSizeBytes, total, body, hfee, hbody, hsigned⟩
  · rintro ⟨⟨haccount, hvalid, hkeys⟩, txSizeBytes, total, body, hfee, hbody, hsigned⟩
    refine ⟨(paymentPrivHex, stakingPrivHex, total), signChecks_eq_ok.mpr ?_,
      returnedCbor_bind.mpr ⟨body, hbody, hsigned⟩⟩
    exact ⟨hpayment, hstaking, haccount, ⟨txSizeBytes, hfee⟩, hvalid, hkeys⟩

/-- Bodies of the same bytes are signed alike. -/
theorem returnedCbor_buildSignedTransaction_congr (hlaw : serialization.Lawful sdk)
    {body body' : TxBody}
    (hbytes : serialization.bodyToCbor body = serialization.bodyToCbor body')
    (witnesses : List TxWitness) :
    returnedCbor serialization (buildSignedTransaction sdk body witnesses) =
      returnedCbor serialization (buildSignedTransaction sdk body' witnesses) := by
  simp only [buildSignedTransaction, hlaw.isValid_congr witnesses hbytes]
  split
  · exact congrArg Except.ok (hlaw.toCbor_congr witnesses hbytes)
  · rfl

/-- Compiling the signatures of the two keys over the hash of a body with the arguments that carry
that body: the checks of the account, then the signed body. -/
theorem returnedCbor_compile_iff (hlaw : serialization.Lawful sdk)
    (hpayment : sdk.isHexString paymentPrivHex 64 = true)
    (hstaking : sdk.isHexString stakingPrivHex 64 = true)
    (hdistinct : sameHex (sdk.toPublic paymentPrivHex) (sdk.toPublic stakingPrivHex) = false)
    (body : TxBody) {cbor : String} :
    returnedCbor serialization (compile sdk serialization
        { signArgs :=
            { transaction, fee, stakingPublicKey := some (sdk.toPublic stakingPrivHex)
              txBodyCbor := some (serialization.bodyToCbor body) }
          signature := (signatureParts sdk paymentPrivHex stakingPrivHex
            (sdk.bodyHash body)).text }) = .ok cbor ↔
      OwnsAccount sdk (transaction.account.getD "") paymentPrivHex stakingPrivHex ∧
        (∃ txSizeBytes total, fee = .utxoFee txSizeBytes total) ∧
        returnedCbor serialization (signBody sdk paymentPrivHex stakingPrivHex body) =
          .ok cbor := by
  have hwf := wellFormed_signatureParts hlaw hpayment hstaking hdistinct body
  obtain ⟨body', hdecoded, hbytes⟩ := hlaw.fromCbor_toCbor body
  have hhash := hlaw.bodyHash_congr hbytes
  -- parsing, decoding and verifying succeed on what `prehash` and the two keys provide
  have hbody : prehashedBody sdk serialization
      { transaction, fee, stakingPublicKey := some (sdk.toPublic stakingPrivHex)
        txBodyCbor := some (serialization.bodyToCbor body) } (sdk.toPublic stakingPrivHex) =
        .ok body' :=
    prehashedBody_eq_ok.mpr ⟨_, _, rfl, hlaw.toPublic_isHexString hstaking, rfl, rfl,
      hlaw.bodyToCbor_ne_empty body, hdecoded⟩
  have hverify : verifySignatures sdk serialization body'
      (signatureParts sdk paymentPrivHex stakingPrivHex (sdk.bodyHash body)) = .ok () :=
    verifySignatures_eq_ok.mpr
      ⟨(hlaw.verify_sign body body' hpayment (sameHex_self _) (sameHex_self _)).mpr hhash.symm,
        (hlaw.verify_sign body body' hstaking (sameHex_self _) (sameHex_self _)).mpr hhash.symm⟩
  have hsigned := returnedCbor_buildSignedTransaction_congr hlaw hbytes
    (signatureParts sdk paymentPrivHex stakingPrivHex (sdk.bodyHash body)).witnesses
  rw [compile, returnedCbor_bind]
  constructor
  · rintro ⟨parts, hparts, h⟩
    obtain rfl := Except.ok.inj ((parseSignature_text hlaw hwf).symm.trans hparts)
    obtain ⟨⟨⟩, hkeys, h⟩ := returnedCbor_bind.mp h
    obtain ⟨haccount, hfee, hvalid, hcredentials⟩ := checkWitnessKeys_eq_ok.mp hkeys
    obtain ⟨decoded, hbody', h⟩ := returnedCbor_bind.mp h
    obtain rfl : body' = decoded := Except.ok.inj (hbody.symm.trans hbody')
    obtain ⟨⟨⟩, -, h⟩ := returnedCbor_bind.mp h
    exact ⟨⟨haccount, hvalid, hcredentials⟩, hfee, hsigned.symm.trans h⟩
  · rintro ⟨⟨haccount, hvalid, hcredentials⟩, hfee, h⟩
    refine ⟨_, parseSignature_text hlaw hwf, returnedCbor_bind.mpr ⟨(), ?_,
      returnedCbor_bind.mpr ⟨body', hbody, returnedCbor_bind.mpr ⟨(), hverify,
        hsigned.trans h⟩⟩⟩⟩
    exact checkWitnessKeys_eq_ok.mpr ⟨haccount, hfee, hvalid, hcredentials⟩

/-- **External signing**, in the same terms. -/
theorem returnedCbor_signExternally_iff (hlaw : serialization.Lawful sdk) {cbor : String}
    (hpayment : sdk.isHexString paymentPrivHex 64 = true)
    (hstaking : sdk.isHexString stakingPrivHex 64 = true)
    (hdistinct : sameHex (sdk.toPublic paymentPrivHex) (sdk.toPublic stakingPrivHex) = false) :
    returnedCbor serialization (signExternally sdk serialization rpc transaction fee
        paymentPrivHex stakingPrivHex) = .ok cbor ↔
      SignsToCbor sdk serialization rpc transaction fee paymentPrivHex stakingPrivHex cbor := by
  have hkey : parseCardanoPublicKey sdk (sdk.toPublic stakingPrivHex) =
      .ok (sdk.toPublic stakingPrivHex) := if_pos (hlaw.toPublic_isHexString hstaking)
  rw [signExternally, returnedCbor_bind]
  constructor
  · rintro ⟨⟨hash, signArgs⟩, hresult, h⟩
    obtain ⟨⟨hash', body⟩, hprehash, heq⟩ := bind_eq_ok.mp hresult
    obtain ⟨rfl, rfl⟩ := Prod.mk.inj (Except.ok.inj heq)
    rw [prehash_eq] at hprehash
    obtain ⟨⟨key, total⟩, hchecks, hresolve⟩ := bind_eq_ok.mp hprehash
    obtain ⟨-, ⟨txSizeBytes, hfee⟩, hkey', -⟩ := prehashChecks_eq_ok.mp hchecks
    obtain rfl := Except.ok.inj (hkey.symm.trans hkey')
    obtain ⟨resolved, hbody, heq⟩ := bind_eq_ok.mp hresolve
    obtain ⟨rfl, rfl⟩ := Prod.mk.inj (Except.ok.inj heq)
    obtain ⟨howns, -, hsigned⟩ :=
      (returnedCbor_compile_iff hlaw hpayment hstaking hdistinct resolved).mp h
    exact ⟨howns, txSizeBytes, total, resolved, hfee, hbody, hsigned⟩
  · rintro ⟨⟨haccount, hvalid, credentials, hcredentials, hpay, hstake⟩, txSizeBytes, total, body,
      hfee, hbody, hsigned⟩
    have hchecks : prehashChecks sdk
        { transaction, fee, stakingPublicKey := sdk.toPublic stakingPrivHex } =
          .ok (sdk.toPublic stakingPrivHex, total) :=
      prehashChecks_eq_ok.mpr ⟨haccount, ⟨txSizeBytes, hfee⟩, hkey, hvalid, credentials,
        hcredentials, hstake⟩
    have hprehash : prehash sdk rpc
        { transaction, fee, stakingPublicKey := sdk.toPublic stakingPrivHex } =
          .ok (sdk.bodyHash body, body) := by
      rw [prehash_eq, hchecks]
      simp only [bind, Except.bind, hbody]
    refine ⟨_, bind_eq_ok.mpr ⟨_, hprehash, rfl⟩, ?_⟩
    exact (returnedCbor_compile_iff hlaw hpayment hstaking hdistinct body).mpr
      ⟨⟨haccount, hvalid, credentials, hcredentials, hpay, hstake⟩, ⟨txSizeBytes, total, hfee⟩,
        hsigned⟩

/-- A private key that is parsed is 32 bytes of hex. -/
theorem isHexString_of_parseCardanoPrivateKey {value parsed : String}
    (h : parseCardanoPrivateKey sdk value = .ok parsed) : sdk.isHexString parsed 64 = true := by
  simp only [parseCardanoPrivateKey] at h
  split at h <;>
  · split at h
    · next hhex => exact Except.ok.inj h ▸ hhex
    · cases h

/-- A signature of a key over a body's hash is compiled with that hash only. -/
theorem bodyHash_eq_of_compile (hlaw : serialization.Lawful sdk) {args : CompileArgs}
    {tx : SignedTransaction} (h : compile sdk serialization args = .ok tx) {privateKey : String}
    (hkey : sdk.isHexString privateKey 64 = true) {body : TxBody} {w : TxWitness}
    (hw : w ∈ tx.witnesses) (hpublic : sameHex w.vkeyHex (sdk.toPublic privateKey) = true)
    (hsignature : sameHex w.sigHex (sdk.sign privateKey (sdk.bodyHash body)) = true) :
    sdk.bodyHash tx.body = sdk.bodyHash body := by
  obtain ⟨-, credentials, payment, staking, -, -, -, -, -, hverify⟩ := compiledFrom_of_compile h
  exact ((hlaw.verify_sign body tx.body hkey hpublic hsignature).mp (hverify w hw)).symm

/-- **External signing is direct signing.** For every transaction, fee and chain and every two
keys that differ, `sign` returns a transaction iff `prehash` and `compile` do, and it is the same.
Whatever is compiled, from any signature string and any arguments, carries the decoded body and two
signatures of the account's credentials that verify for its hash; a signature made over a hash is
compiled with that hash only. -/
theorem compile_agrees_sign (hlaw : serialization.Lawful sdk) :
    (∀ (rpc : BlockfrostRpcClient) (transaction : Transaction) (fee : Fee)
        (paymentPrivateKey stakingPrivateKey paymentPrivHex stakingPrivHex : String),
      parseCardanoPrivateKey sdk paymentPrivateKey = .ok paymentPrivHex →
      parseCardanoPrivateKey sdk stakingPrivateKey = .ok stakingPrivHex →
      sameHex (sdk.toPublic paymentPrivHex) (sdk.toPublic stakingPrivHex) = false →
      ∀ cbor, returnedCbor serialization
            (sign sdk rpc { transaction, fee, paymentPrivateKey, stakingPrivateKey }) = .ok cbor ↔
          returnedCbor serialization (signExternally sdk serialization rpc transaction fee
            paymentPrivHex stakingPrivHex) = .ok cbor) ∧
      ∀ (args : CompileArgs) (tx : SignedTransaction),
        compile sdk serialization args = .ok tx →
        CompiledFrom sdk serialization args tx ∧
          ∀ privateKey body, sdk.isHexString privateKey 64 = true → ∀ w ∈ tx.witnesses,
            sameHex w.vkeyHex (sdk.toPublic privateKey) = true →
            sameHex w.sigHex (sdk.sign privateKey (sdk.bodyHash body)) = true →
            sdk.bodyHash tx.body = sdk.bodyHash body := by
  constructor
  · intro rpc transaction fee paymentPrivateKey stakingPrivateKey paymentPrivHex stakingPrivHex
      hpayment hstaking hdistinct cbor
    rw [returnedCbor_sign_iff hpayment hstaking,
      returnedCbor_signExternally_iff hlaw (isHexString_of_parseCardanoPrivateKey hpayment)
        (isHexString_of_parseCardanoPrivateKey hstaking) hdistinct]
  · intro args tx h
    exact ⟨compiledFrom_of_compile h,
      fun privateKey body hkey w hw hpublic hsignature =>
        bodyHash_eq_of_compile hlaw h hkey hw hpublic hsignature⟩

end external

/-! ### A claim signed both ways -/

/-- The body of the claim from both UTXOs. -/
def walletClaimBody : TxBody where
  inputs := tightUtxos.map BlockfrostUtxo.toInput
  outputs := [{ address := walletAddress, coins := 2922576 }]
  fee := 17424
  invalidHereafter := some 100007200
  certificates := []
  withdrawals := [(walletStakeAddress, 1000000)]

/-- The bytes of that body and of the delegation's, told apart by their fees. -/
def walletBodyCbor (body : TxBody) : String :=
  if body.fee = 17424 then
    "a5008282582098594acb5f8581bb21c7c1cd79793bac073c3d742c34e3eb0750db54faaa783a00825820d9ac"
      ++ "f06047c4f6fb0973213cb1b4ce2906fe03c38e6d684137bb7107f93014cb00018182583901c468f3e9bb8072"
      ++ "2b90f481adb7bcc7aab147bbfa25db7f0448501e6dbdb9c1d6edcf97a0c51e59c735312c0cc929bf2e48b4b9"
      ++ "7d668e94081a002c985002194410031a05f5fd2005a1581de1bdb9c1d6edcf97a0c51e59c735312c0cc929bf"
      ++ "2e48b4b97d668e94081a000f4240"
  else
    "a50081825820a1075db55d416d3ca199f55b6e2115b9345e16c5cf302fc80e9d5fbf5d48d4aa000181825839"
      ++ "01c468f3e9bb80722b90f481adb7bcc7aab147bbfa25db7f0448501e6dbdb9c1d6edcf97a0c51e59c735312c"
      ++ "0cc929bf2e48b4b97d668e94081a0095b0bd021a0002e5c3031a05f5fd20048183028200581cbdb9c1d6edcf"
      ++ "97a0c51e59c735312c0cc929bf2e48b4b97d668e9408581c0f292fcaa02b8b2f9b3c8f9fd8e0bb21abedb692"
      ++ "a6d5058df3ef2735"

/-- A string of hex of a given length. -/
def isHexText (value : String) (length : ℕ) : Bool :=
  value.toList.length = length && value.toList.all fun c => (digitValue 16 c).isSome

/-- The signatures of the two keys over the hash of the claim's body. Other messages are doubled. -/
def walletSignature (publicKey message : String) : String :=
  if message = walletBodyHash walletClaimBody then
    walletSign (if sameHex publicKey walletPaymentKey.2 then walletPaymentKey.1
      else walletStakingKey.1) message
  else message ++ message

/-- The external SDK of the wallet, with hex checked. -/
def walletSigner : CardanoSdk :=
  { walletSdk with
    isHexString := isHexText
    sign := fun privateKey message => walletSignature (walletSdk.toPublic privateKey) message }

/-- The witnesses of a transaction in its bytes. -/
def witnessCbor (w : TxWitness) : String := "825820" ++ w.vkeyHex ++ "5840" ++ w.sigHex

/-- The serialization of the wallet's transactions. -/
def walletSerialization : Serialization where
  bodyToCbor := walletBodyCbor
  bodyFromCbor := fun cbor =>
    if cbor = walletBodyCbor walletClaimBody then .ok walletClaimBody
    else if cbor = walletBodyCbor walletDelegateBody then .ok walletDelegateBody
    else .error (.foreign "InvalidStateError")
  toCbor := fun tx =>
    "84" ++ walletBodyCbor tx.body ++ "a1008" ++ toString tx.witnesses.length
      ++ String.join (tx.witnesses.map witnessCbor) ++ "f5f6"
  verify := fun publicKey signature message =>
    sameHex signature (walletSignature publicKey message)

/-- Every body has the hash and the bytes of one of the two. -/
theorem walletBodyHash_cases (body : TxBody) :
    (walletBodyHash body = walletBodyHash walletClaimBody ∧
        walletBodyCbor body = walletBodyCbor walletClaimBody) ∨
      (walletBodyHash body = walletBodyHash walletDelegateBody ∧
        walletBodyCbor body = walletBodyCbor walletDelegateBody) := by
  by_cases hfee : body.fee = 17424
  · left
    rw [walletBodyHash, if_pos hfee, walletBodyCbor, if_pos hfee]
    exact ⟨rfl, rfl⟩
  · right
    rw [walletBodyHash, if_neg hfee, walletBodyCbor, if_neg hfee]
    exact ⟨rfl, rfl⟩

theorem walletBodyCbor_claim_ne_delegate :
    walletBodyCbor walletClaimBody ≠ walletBodyCbor walletDelegateBody := by
  decide +kernel

theorem sameHex_comm (a b : String) : sameHex a b = sameHex b a := by
  simp only [sameHex, eq_comm]

theorem sameHex_congr_left {a b c : String} (h : sameHex a b = true) :
    sameHex a c = sameHex b c := by
  simp only [sameHex, decide_eq_true_eq] at h ⊢
  rw [h]

/-- A signature of one of the keys verifies for the hash it was made over, and for that only. -/
theorem sameHex_walletSignature {publicKey : String}
    (hkey : publicKey = walletPaymentKey.2 ∨ publicKey = walletStakingKey.2) (body body' : TxBody) :
    sameHex (walletSignature publicKey (walletBodyHash body))
        (walletSignature publicKey (walletBodyHash body')) = true ↔
      walletBodyHash body = walletBodyHash body' := by
  have hhash : walletBodyHash walletClaimBody ≠ walletBodyHash walletDelegateBody := by
    decide +kernel
  have hsignature : sameHex (walletSignature publicKey (walletBodyHash walletClaimBody))
      (walletSignature publicKey (walletBodyHash walletDelegateBody)) ≠ true := by
    rcases hkey with rfl | rfl <;> decide +kernel
  rcases walletBodyHash_cases body with ⟨h, -⟩ | ⟨h, -⟩ <;>
    rcases walletBodyHash_cases body' with ⟨h', -⟩ | ⟨h', -⟩ <;> rw [h, h']
  · exact iff_of_true (sameHex_self _) rfl
  · exact iff_of_false hsignature hhash
  · rw [sameHex_comm]
    exact iff_of_false hsignature hhash.symm
  · exact iff_of_true (sameHex_self _) rfl

theorem walletSdk_toPublic_cases (privateKey : String) :
    walletSdk.toPublic privateKey = walletPaymentKey.2 ∨
      walletSdk.toPublic privateKey = walletStakingKey.2 := by
  by_cases h : privateKey = walletPaymentKey.1
  · exact Or.inl (if_pos h)
  · exact Or.inr (if_neg h)

theorem walletSerialization_lawful : walletSerialization.Lawful walletSigner where
  fromCbor_toCbor body := by
    rcases walletBodyHash_cases body with ⟨-, h⟩ | ⟨-, h⟩
    · exact ⟨walletClaimBody, by simp [walletSerialization, h], h.symm⟩
    · refine ⟨walletDelegateBody, ?_, h.symm⟩
      simp [walletSerialization, h, walletBodyCbor_claim_ne_delegate.symm]
  bodyToCbor_ne_empty body := by
    rcases walletBodyHash_cases body with ⟨-, h⟩ | ⟨-, h⟩ <;>
    · change walletBodyCbor body ≠ ""
      rw [h]
      decide +kernel
  bodyHash_congr {body body'} h := by
    change walletBodyCbor body = walletBodyCbor body' at h
    change walletBodyHash body = walletBodyHash body'
    rcases walletBodyHash_cases body with ⟨hhash, hcbor⟩ | ⟨hhash, hcbor⟩ <;>
    rcases walletBodyHash_cases body' with ⟨hhash', hcbor'⟩ | ⟨hhash', hcbor'⟩
    · rw [hhash, hhash']
    · exact absurd (hcbor.symm.trans (h.trans hcbor')) walletBodyCbor_claim_ne_delegate
    · exact absurd (hcbor'.symm.trans (h.symm.trans hcbor)) walletBodyCbor_claim_ne_delegate
    · rw [hhash, hhash']
  isValid_congr _ _ := rfl
  toCbor_congr {body body'} witnesses h := by
    change walletBodyCbor body = walletBodyCbor body' at h
    simp [walletSerialization, h]
  colon_of_isHexString {value n} h hcolon := by
    have hall := (Bool.and_eq_true _ _).mp h
    exact absurd (List.all_eq_true.mp hall.2 ':' hcolon) (by decide)
  toPublic_isHexString {privateKey} _ := by
    change isHexText (walletSdk.toPublic privateKey) 64 = true
    rcases walletSdk_toPublic_cases privateKey with h | h <;> rw [h] <;> decide +kernel
  sign_isHexString {privateKey} body _ := by
    change isHexText (walletSignature (walletSdk.toPublic privateKey) (walletBodyHash body)) 128 =
      true
    rcases walletSdk_toPublic_cases privateKey with h | h <;>
    rcases walletBodyHash_cases body with ⟨hhash, -⟩ | ⟨hhash, -⟩ <;>
    · rw [h, hhash]
      decide +kernel
  verify_sign {privateKey publicKey signature} body body' _ hpublic hsignature := by
    change sameHex signature (walletSignature publicKey (walletBodyHash body')) = true ↔ _
    have hspelling : walletSignature publicKey (walletBodyHash body') =
        walletSignature (walletSdk.toPublic privateKey) (walletBodyHash body') := by
      unfold walletSignature
      rw [sameHex_congr_left hpublic]
      rfl
    rw [hspelling, sameHex_congr_left hsignature]
    exact sameHex_walletSignature (walletSdk_toPublic_cases privateKey) body body'

/-- The claim of both UTXOs, signed externally: the bytes that `sign` returns. -/
theorem signExternally_walletClaim :
    returnedCbor walletSerialization (signExternally walletSigner walletSerialization
      (walletRpc noConstantFee tightUtxos) walletClaim (.utxoFee 360 17424) walletPaymentKey.1
      walletStakingKey.1) =
    .ok ("84" ++ walletBodyCbor walletClaimBody
      ++ "a10082825820700e2ce7c4b674427eab27ba820bcf6f0faebe68e09fe8564292114e41dc6a415840"
      ++ walletSign walletPaymentKey.1 ""
      ++ "82582030cfdaa846b8b8f43eb34484bbd7d60437d9d6cb1603634bbb6b7b8106640f655840"
      ++ walletSign walletStakingKey.1 "" ++ "f5f6") := by
  have hsign := (compile_agrees_sign walletSerialization_lawful).1
    (walletRpc noConstantFee tightUtxos) walletClaim (.utxoFee 360 17424) walletPaymentKey.1
    walletStakingKey.1 walletPaymentKey.1 walletStakingKey.1 (by decide +kernel)
    (by decide +kernel) (by decide +kernel)
  exact (hsign _).mp (by decide +kernel)

end GuardianStake.Cardano
