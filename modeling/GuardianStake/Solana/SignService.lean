import GuardianStake.Sdk.Signing
import GuardianStake.Solana.TxBuilder

/-!
# Signing on Solana

`services/sign-service.ts`: direct signing, and the external path of `prehash` and `compile`. The
message of a `BuildTxResult` is compiled, coded and signed by `@solana/kit`, which is a parameter;
`SigningKit.Lawful` is what is relied on.

* `constantTimeBytesEqual_iff` — the loop without a short circuit compares.
* `buildUnsignedTx_signers` — **who signs**: every message that is built is paid and signed by the
  authority alone.
-/

namespace GuardianStake.Solana

open Sdk

/-! ## Kit -/

/-- `Transaction` of `@solana/kit`: the bytes of a message, and a signature or `null` for each
address it has to be signed by. -/
structure KitTransaction where
  messageBytes : List UInt8
  signatures : JsMap String (Option (List UInt8))
  deriving DecidableEq

/-- What the sign service uses of `@solana/kit`. `base64Encode` is from text to bytes and
`base64Decode` from bytes to text, as Kit calls them. -/
structure SigningKit where
  compileTransaction : TransactionMessage → Result KitTransaction
  getBase64EncodedWireTransaction : KitTransaction → String
  decodeTransaction : List UInt8 → Result KitTransaction
  base16Encode : String → List UInt8
  base64Encode : String → Result (List UInt8)
  base64Decode : List UInt8 → String
  /-- The address of the keypair of a seed. -/
  addressOf : List UInt8 → String
  /-- The Ed25519 signature under a seed. -/
  signBytes : (seed message : List UInt8) → List UInt8
  signTransaction : (seed : List UInt8) → KitTransaction → Result KitTransaction
  getPublicKeyFromAddress : String → Result (List UInt8)
  verifySignature : (publicKey signature message : List UInt8) → Bool

/-! ## The code -/

/-- Source: `services/sign-service.ts`, `SolanaSignServiceConfig`. -/
structure SolanaSignServiceConfig where
  defaultComputeUnitPrice : Option ℤ := none
  seedScanMax : Option ℤ := none
  deriving DecidableEq, Repr

/-- Source: `entity/sign-types.ts`, `SigningWithPrivateKey`. -/
structure SigningWithPrivateKey extends BaseSignArgs where
  privateKey : String

/-- Source: `tx/solana-types.ts`, `SolanaSignArgs`. -/
structure SolanaSignArgs extends BaseSignArgs where
  messageBytes : Option (List UInt8)
  wireTransaction : Option String
  deriving DecidableEq, Repr

/-- Source: `entity/sign-types.ts`, `PrehashResult`. -/
structure PrehashResult where
  serializedTransaction : String
  signArgs : SolanaSignArgs
  deriving DecidableEq, Repr

/-- Source: `entity/sign-types.ts`, `CompileArgs`. -/
structure CompileArgs where
  signArgs : SolanaSignArgs
  signature : String
  deriving DecidableEq, Repr

/-- The bytes of `BuildTxResult`: the message that is signed, and the unsigned wire transaction. -/
structure BuiltBytes where
  messageBytes : List UInt8
  wireTransactionBase64 : String
  deriving DecidableEq, Repr

/-- Source: `services/sign-service.ts`, `assertSolanaFee`; the fee it asserts. -/
def assertSolanaFeeToSign (fee : Fee) : Result SolanaFee :=
  match fee with
  | .solanaFee computeUnits computeUnitPrice total =>
      .ok { computeUnits, computeUnitPrice := some computeUnitPrice, total }
  | fee =>
      .error (.signing .invalidFeeType
        s!"Solana sign/prehash requires a SolanaFee, got \"{fee.typeText}\".")

/-- A character of `SEED_HEX_RE`. -/
def isLowerHex (c : Char) : Bool := ('0' ≤ c && c ≤ '9') || ('a' ≤ c && c ≤ 'f')

/-- Source: `services/sign-service.ts`, `parseEd25519SeedHex`. -/
def parseEd25519SeedHex (signer : SigningKit) (privateKey : String) : Result (List UInt8) := do
  if ¬(privateKey.length = 64 ∧ privateKey.toList.all isLowerHex = true) then
    throw (.signing .invalidSigningArgs
      "Solana privateKey must be a 32-byte Ed25519 seed as 64 lowercase hex characters.")
  return signer.base16Encode privateKey

/-- Source: `services/sign-service.ts`, `decodeWireTransaction`. -/
def decodeWireTransaction (signer : SigningKit) (wireBase64 : String) : Result KitTransaction := do
  let bytes ← signer.base64Encode wireBase64
  signer.decodeTransaction bytes

/-- Source: `services/sign-service.ts`, `constantTimeBytesEqual`. -/
def constantTimeBytesEqual (a b : List UInt8) : Bool :=
  if a.length ≠ b.length then false
  else
    let diff := (a.zip b).foldl (fun diff bytes => diff ||| (bytes.1 ^^^ bytes.2)) 0
    diff = 0

/-- Source: `services/sign-service.ts`, `attachFeePayerSignature`. -/
def attachFeePayerSignature (unsigned : KitTransaction) (feePayer : String)
    (signature : List UInt8) : Result KitTransaction := do
  if signature.length ≠ 64 then
    throw (.signing .invalidSigningArgs
      s!"compile() signature must decode to 64 Ed25519 bytes, got {signature.length}.")
  if !unsigned.signatures.has feePayer then
    throw (.signing .invalidSigningArgs
      s!"Fee payer \"{feePayer}\" is not a required signer on the prehashed transaction.")
  return { unsigned with signatures := unsigned.signatures.set feePayer (some signature) }

section code

variable (kit : SolanaKit) (signer : SigningKit) (rpc : SolanaRpcClient)
  (config : SolanaSignServiceConfig)

/-- What `sign` and `prehash` hand to the builder. -/
def signDeps (authorityAddress : String) (fee : SolanaFee) : BuildTxDeps where
  rpc := rpc
  authorityAddress := authorityAddress
  seedScanMax := config.seedScanMax
  defaultComputeUnitPrice := config.defaultComputeUnitPrice
  computeUnitPrice := fee.computeUnitPrice

/-- The bytes `buildUnsignedTx` returns. -/
def buildUnsignedBytes (deps : BuildTxDeps) (tx : Transaction) (fee : Fee) : Result BuiltBytes := do
  let built ← buildUnsignedTx kit deps tx fee
  let compiled ← signer.compileTransaction built.message
  return {
    messageBytes := compiled.messageBytes
    wireTransactionBase64 := signer.getBase64EncodedWireTransaction compiled }

/-- Source: `services/sign-service.ts`, `sign`. -/
def sign (args : SigningWithPrivateKey) : Result String := do
  let fee ← assertSolanaFeeToSign args.fee
  let seed ← parseEd25519SeedHex signer args.privateKey
  let authorityAddress := signer.addressOf seed
  if args.transaction.account.getD "" ≠ "" ∧ args.transaction.account ≠ some authorityAddress then
    throw (.signing .invalidSigningArgs
      "transaction.account must match the address derived from privateKey.")
  let built ← buildUnsignedBytes kit signer (signDeps rpc config authorityAddress fee)
    args.transaction args.fee
  let unsigned ← decodeWireTransaction signer built.wireTransactionBase64
  let signed ← signer.signTransaction seed unsigned
  return signer.getBase64EncodedWireTransaction signed

/-- Source: `services/sign-service.ts`, `prehash`. -/
def prehash (args : BaseSignArgs) : Result PrehashResult := do
  let fee ← assertSolanaFeeToSign args.fee
  let authorityAddress := args.transaction.account.getD ""
  if isBlank authorityAddress then
    throw (.signing .invalidSigningArgs
      "prehash() requires transaction.account (fee payer / authority).")
  let built ← buildUnsignedBytes kit signer (signDeps rpc config authorityAddress fee)
    args.transaction args.fee
  return {
    serializedTransaction := signer.base64Decode built.messageBytes
    signArgs :=
      { args with
        messageBytes := some built.messageBytes
        wireTransaction := some built.wireTransactionBase64 } }

/-- Source: `services/sign-service.ts`, `compile`. -/
def compile (args : CompileArgs) : Result String := do
  let wire := args.signArgs.wireTransaction.getD ""
  if wire = "" then
    throw (.signing .invalidSigningArgs
      "compile() requires signArgs._wireTransaction from prehash().")
  if args.signature = "" then
    throw (.signing .invalidSigningArgs "compile() requires a non-empty base64 signature.")
  let sigBytes ← signer.base64Encode args.signature
  let feePayer := args.signArgs.transaction.account.getD ""
  if feePayer = "" then
    throw (.signing .invalidSigningArgs
      "compile() requires signArgs.transaction.account (fee payer).")
  let unsigned ← decodeWireTransaction signer wire
  match args.signArgs.messageBytes with
  | none =>
      throw (.signing .invalidSigningArgs
        "compile() requires signArgs._messageBytes from prehash().")
  | some expectedMessageBytes => do
      if !constantTimeBytesEqual unsigned.messageBytes expectedMessageBytes then
        throw (.signing .signatureMismatch
          ("compile() detected that signArgs._wireTransaction's message does not match "
            ++ "signArgs._messageBytes. This means _wireTransaction was mutated or swapped after "
            ++ "prehash()."))
      if sigBytes.length ≠ 64 then
        throw (.signing .invalidSigningArgs
          s!"compile() signature must decode to 64 Ed25519 bytes, got {sigBytes.length}.")
      let feePayerPublicKey ← signer.getPublicKeyFromAddress feePayer
      if !signer.verifySignature feePayerPublicKey sigBytes expectedMessageBytes then
        throw (.signing .signatureMismatch
          ("compile() produced a transaction whose signature does not verify against the fee "
            ++ "payer's public key over the prehashed message. This can mean signArgs was mutated "
            ++ "after prehash(), or the supplied signature belongs to a different "
            ++ "signer/transaction."))
      let signed ← attachFeePayerSignature unsigned feePayer sigBytes
      return signer.getBase64EncodedWireTransaction signed

end code

/-! ## What is relied on -/

/-- The accounts an instruction has to be signed by. -/
def Instruction.signers : Instruction → List String
  | .createAccountWithSeed payer _ base .. => [payer, base]
  | .initializeChecked _ _ withdrawAuthority => [withdrawAuthority]
  | .delegateStake _ _ _ stakeAuthority => [stakeAuthority]
  | .deactivate _ stakeAuthority => [stakeAuthority]
  | .withdraw _ _ withdrawAuthority _ => [withdrawAuthority]

/-- What is relied on of Kit. A compiled message is signed by its fee payer and the signers of its
instructions, and reads back from its wire text; who signs a transaction is in its message. The
keypair of a seed signs for its address, and its signatures verify. -/
structure SigningKit.Lawful (signer : SigningKit) : Prop where
  signers : ∀ {message compiled}, signer.compileTransaction message = .ok compiled →
    ∀ a, a ∈ compiled.signatures.entries.map Prod.fst ↔
      a ∈ message.feePayer :: message.instructions.flatMap Instruction.signers
  readsBack : ∀ {message compiled}, signer.compileTransaction message = .ok compiled →
    signer.getBase64EncodedWireTransaction compiled ≠ "" ∧
      decodeWireTransaction signer (signer.getBase64EncodedWireTransaction compiled) = .ok compiled ∧
      signer.base64Encode (signer.base64Decode compiled.messageBytes) = .ok compiled.messageBytes
  decoded : ∀ {bytes bytes' t t'}, signer.decodeTransaction bytes = .ok t →
    signer.decodeTransaction bytes' = .ok t' → t.messageBytes = t'.messageBytes →
    t.signatures.entries.map Prod.fst = t'.signatures.entries.map Prod.fst
  address : ∀ seed, isBlank (signer.addressOf seed) = false
  signature : ∀ seed message, (signer.signBytes seed message).length = 64 ∧
    signer.base64Decode (signer.signBytes seed message) ≠ "" ∧
    signer.base64Encode (signer.base64Decode (signer.signBytes seed message)) =
      .ok (signer.signBytes seed message)
  verifies : ∀ seed, ∃ publicKey,
    signer.getPublicKeyFromAddress (signer.addressOf seed) = .ok publicKey ∧
      ∀ message, signer.verifySignature publicKey (signer.signBytes seed message) message = true
  signTransaction : ∀ {seed t}, t.signatures.entries.map Prod.fst = [signer.addressOf seed] →
    signer.signTransaction seed t = .ok
      { t with
        signatures := t.signatures.set (signer.addressOf seed)
          (some (signer.signBytes seed t.messageBytes)) }

/-! ## The comparison -/

/-- An accumulated difference is zero iff it was and every pair of bytes is equal. -/
theorem foldl_or_xor_eq_zero (l : List (UInt8 × UInt8)) (diff : UInt8) :
    l.foldl (fun diff bytes => diff ||| (bytes.1 ^^^ bytes.2)) diff = 0 ↔
      diff = 0 ∧ ∀ bytes ∈ l, bytes.1 = bytes.2 := by
  induction l generalizing diff with
  | nil => simp
  | cons bytes l ih =>
      rw [List.foldl_cons, ih, UInt8.or_eq_zero_iff, UInt8.xor_eq_zero_iff, List.forall_mem_cons,
        and_assoc]

/-- **The loop without a short circuit compares**: it returns true for equal bytes and no others. -/
theorem constantTimeBytesEqual_iff {a b : List UInt8} :
    constantTimeBytesEqual a b = true ↔ a = b := by
  unfold constantTimeBytesEqual
  by_cases hlen : a.length = b.length
  · rw [if_neg (not_not.mpr hlen), decide_eq_true_eq, foldl_or_xor_eq_zero]
    constructor
    · rintro ⟨-, hbytes⟩
      apply List.ext_getElem hlen
      intro i ha hb
      have hi : i < (a.zip b).length := by simp [ha, hb]
      have hmem := List.getElem_mem hi
      rw [List.getElem_zip] at hmem
      exact hbytes _ hmem
    · rintro rfl
      refine ⟨rfl, fun bytes hbytes => ?_⟩
      obtain ⟨i, hi, rfl⟩ := List.mem_iff_getElem.mp hbytes
      rw [List.getElem_zip]
  · rw [if_pos hlen]
    exact ⟨nofun, fun h => absurd (congrArg List.length h) hlen⟩

/-! ## Who signs -/

section signers

variable {kit : SolanaKit} {deps : BuildTxDeps} {tx : Transaction} {fee : Fee}
  {built : BuildTxResult}

/-- A message pays from the authority and carries the instructions it is given. -/
theorem buildMessage_eq_ok {authority : String} {latest : LatestBlockhash}
    {instructions : List Instruction} {computeUnits computeUnitPrice : ℤ}
    (h : buildMessage authority latest instructions computeUnits computeUnitPrice = .ok built) :
    built.message.feePayer = authority ∧ built.message.instructions = instructions := by
  unfold buildMessage at h
  obtain ⟨_, -, h⟩ := bind_eq_ok.mp h
  obtain rfl := Except.ok.inj h
  exact ⟨rfl, rfl⟩

/-- A message that one authority pays and signs alone. -/
def SignedAloneBy (authority : String) (message : TransactionMessage) : Prop :=
  message.feePayer = authority ∧
    ∀ a ∈ message.instructions.flatMap Instruction.signers, a = authority

/-- What is laid out for a Delegate. -/
theorem instructions_of_draftDelegate {rpc : SolanaRpcClient} {authority : String}
    {seedScanMax : Option ℤ} {base : BaseTransaction} {isMaxAmount : Bool}
    {validator : Option ValidatorRef} {resource : Option String} {draft : DelegateDraft}
    (h : draftDelegate kit rpc authority seedScanMax base isMaxAmount validator resource =
      .ok draft) :
    ∃ stake vote seed lamports, draft.instructions =
      [.createAccountWithSeed authority stake authority seed lamports stakeAccountSpace
          stakeProgramAddress,
        .initializeChecked stake authority authority,
        .delegateStake stake vote stakeConfigAddress authority] := by
  unfold draftDelegate at h
  obtain ⟨_, -, h⟩ := bind_eq_ok.mp h
  obtain ⟨_, -, h⟩ := bind_eq_ok.mp h
  obtain ⟨-, h⟩ := guard_eq_ok.mp h
  obtain ⟨vote, -, h⟩ := bind_eq_ok.mp h
  obtain ⟨_, -, h⟩ := bind_eq_ok.mp h
  obtain ⟨rentExempt, -, h⟩ := bind_eq_ok.mp h
  obtain ⟨_, -, h⟩ := bind_eq_ok.mp h
  obtain ⟨_, -, h⟩ := bind_eq_ok.mp h
  obtain ⟨-, h⟩ := guard_eq_ok.mp h
  obtain ⟨free, -, h⟩ := bind_eq_ok.mp h
  obtain ⟨stake, -, h⟩ := bind_eq_ok.mp h
  obtain rfl := Except.ok.inj h
  exact ⟨stake, vote, free.seed, base.amount + rentExempt, rfl⟩

/-- A Delegate is signed by the authority. -/
theorem buildDelegate_signers {base : BaseTransaction} {isMaxAmount : Bool}
    {validator : Option ValidatorRef} {resource : Option String} {fee : SolanaFee}
    (h : buildDelegate kit deps base isMaxAmount validator resource fee = .ok built) :
    SignedAloneBy deps.authorityAddress built.message := by
  rw [buildDelegate_eq] at h
  obtain ⟨draft, hdraft, h⟩ := bind_eq_ok.mp h
  obtain ⟨_, -, h⟩ := bind_eq_ok.mp h
  obtain ⟨hpayer, hinstructions⟩ := buildMessage_eq_ok h
  refine ⟨hpayer, ?_⟩
  rw [hinstructions]
  obtain ⟨stake, vote, seed, lamports, hlaid⟩ := instructions_of_draftDelegate hdraft
  rw [hlaid]
  simp [Instruction.signers]

/-- An Undelegate is signed by the authority. -/
theorem buildUndelegate_signers {stakeAccount : Option String} {fee : SolanaFee}
    (h : buildUndelegate kit deps stakeAccount fee = .ok built) :
    SignedAloneBy deps.authorityAddress built.message := by
  unfold buildUndelegate at h
  obtain ⟨stake, -, h⟩ := bind_eq_ok.mp h
  obtain ⟨_, -, h⟩ := bind_eq_ok.mp h
  obtain ⟨_, -, h⟩ := bind_eq_ok.mp h
  obtain ⟨_, -, h⟩ := bind_eq_ok.mp h
  obtain ⟨hpayer, hinstructions⟩ := buildMessage_eq_ok h
  refine ⟨hpayer, ?_⟩
  rw [hinstructions]
  simp [Instruction.signers]

/-- A ClaimDelegate is signed by the authority. -/
theorem buildClaimDelegate_signers {stakeAccount : Option String} {fee : SolanaFee}
    (h : buildClaimDelegate kit deps stakeAccount fee = .ok built) :
    SignedAloneBy deps.authorityAddress built.message := by
  unfold buildClaimDelegate at h
  obtain ⟨stake, -, h⟩ := bind_eq_ok.mp h
  obtain ⟨_, -, h⟩ := bind_eq_ok.mp h
  obtain ⟨_, -, h⟩ := bind_eq_ok.mp h
  obtain ⟨_, -, h⟩ := bind_eq_ok.mp h
  obtain ⟨-, h⟩ := guard_eq_ok.mp h
  obtain ⟨hpayer, hinstructions⟩ := buildMessage_eq_ok h
  refine ⟨hpayer, ?_⟩
  rw [hinstructions]
  simp [Instruction.signers]

/-- **Who signs**: every message that is built is paid and signed by the authority alone. -/
theorem buildUnsignedTx_signers (h : buildUnsignedTx kit deps tx fee = .ok built) :
    SignedAloneBy deps.authorityAddress built.message := by
  unfold buildUnsignedTx at h
  obtain ⟨_, -, h⟩ := bind_eq_ok.mp h
  obtain ⟨_, htype, h⟩ := bind_eq_ok.mp h
  cases tx with
  | delegate => exact buildDelegate_signers h
  | undelegate => exact buildUndelegate_signers h
  | claimDelegate => exact buildClaimDelegate_signers h
  | redelegate | claimRewards | vote => cases h

/-- A compiled message that one authority pays and signs alone has its one signature to add. -/
theorem SignedAloneBy.keys {signer : SigningKit} (hsigner : signer.Lawful) {authority : String}
    {message : TransactionMessage} {compiled : KitTransaction}
    (hmessage : SignedAloneBy authority message)
    (hcompiled : signer.compileTransaction message = .ok compiled) :
    compiled.signatures.entries.map Prod.fst = [authority] := by
  have hmem : ∀ a ∈ compiled.signatures.entries.map Prod.fst, a = authority := by
    intro a ha
    rcases List.mem_cons.mp ((hsigner.signers hcompiled a).mp ha) with rfl | ha
    · exact hmessage.1
    · exact hmessage.2 a ha
  have hpayer : authority ∈ compiled.signatures.entries.map Prod.fst :=
    (hsigner.signers hcompiled authority).mpr (hmessage.1 ▸ List.mem_cons_self)
  have hnodup := compiled.signatures.nodup
  generalize compiled.signatures.entries.map Prod.fst = keys at hmem hpayer hnodup
  match keys with
  | [] => cases hpayer
  | [key] => rw [hmem key List.mem_cons_self]
  | key :: key' :: rest =>
      have hkey := hmem key List.mem_cons_self
      have hkey' := hmem key' (List.mem_cons_of_mem _ List.mem_cons_self)
      simp [hkey, hkey'] at hnodup

end signers

end GuardianStake.Solana
