import GuardianStake.Bsc.Types

/-!
# Signing on BSC

`services/sign-service.ts`: direct signing, and the external path of `prehash` and `compile`.

* `sign_eq_ok`, `prehashAndCompile_eq_ok` — what each path returns: the same transaction under the
  same signature, on the external path only if the signer is `transaction.account`.
* `bnbToShares_max` — for `isMaxAmount` the shares are those of `transaction.account`.
* `sign_agrees_iff` — **the two paths agree**, and the sender is `transaction.account`, iff the key
  is that account's or there is nothing to sign.
-/

namespace GuardianStake.Bsc

open Sdk

/-! ## The code -/

/-- Source: `services/sign-service.ts`, `MIN_DELEGATION_AMOUNT`, `parseEther("1")`. -/
def minDelegationAmount : ℤ := 10 ^ 18

/-- Source: `sign-types.ts`, `CallData`. -/
structure CallData where
  data : String
  amount : ℤ
  deriving DecidableEq, Repr

section code

variable (viem : Viem) (rpc : StakingRpcClient)

/-- Source: `services/sign-service.ts`, `getValidatorAddress`. -/
def getValidatorAddress (validator : ValidatorRef) : Result String :=
  parseEvmAddress viem validator.address

/-- Source: `services/sign-service.ts`, `bnbToShares`, on the fields it reads. -/
def bnbToShares (base : BaseTransaction) (isMaxAmount : Bool) (validator : ValidatorRef) :
    Result ℤ :=
  match validator with
  | .operatorAddress _ =>
      .error (.signing .invalidSigningArgs
        ("Undelegate and Redelegate require a Validator object (not just an operator address "
          ++ "string) so the SDK can resolve the credit contract and convert the BNB amount to "
          ++ "shares. Use getValidators() to obtain the full Validator object."))
  | .validator validator => do
      let creditAddress ← parseEvmAddress viem validator.creditAddress
      if isMaxAmount then
        match base.account with
        | none =>
            .error (.validation .invalidAddress
              ("account is required when isMaxAmount is true — it is used to read the exact share "
                ++ "balance."))
        | some account => do
            let delegator ← parseEvmAddress viem account
            rpc.getShareBalance creditAddress delegator
      else rpc.getSharesByPooledBNBData creditAddress base.amount

/-- Source: `services/sign-service.ts`, `buildCallData`. -/
def buildCallData (transaction : Transaction) : Result CallData :=
  match transaction with
  | .delegate base isMaxAmount validator resource => do
      if base.amount < minDelegationAmount then
        throw (.validation .invalidAmount
          s!"Amount must be at least 1 BNB — got {viem.formatEther base.amount} BNB")
      let validator ← assertValidator (.delegate base isMaxAmount validator resource)
      let operatorAddress ← getValidatorAddress viem validator
      let data ← encodeDelegate viem operatorAddress
      return { data, amount := base.amount }
  | .redelegate base isMaxAmount fromValidator toValidator => do
      let shares ← bnbToShares viem rpc base isMaxAmount fromValidator
      let fromAddress ← getValidatorAddress viem fromValidator
      let toAddress ← getValidatorAddress viem toValidator
      let data ← encodeRedelegate viem fromAddress toAddress shares
      return { data, amount := 0 }
  | .undelegate base isMaxAmount validator resource stakeAccount => do
      let validator ← assertValidator (.undelegate base isMaxAmount validator resource stakeAccount)
      let shares ← bnbToShares viem rpc base isMaxAmount validator
      let operatorAddress ← getValidatorAddress viem validator
      let data ← encodeUndelegate viem operatorAddress shares
      return { data, amount := 0 }
  | .claimDelegate base validator index stakeAccount => do
      let validator ← assertValidator (.claimDelegate base validator index stakeAccount)
      match index with
      | none =>
          .error (.validation .invalidAmount "ClaimDelegate on BSC requires an index.")
      | some index => do
          let operatorAddress ← getValidatorAddress viem validator
          let data ← encodeClaim viem operatorAddress index
          return { data, amount := 0 }
  | transaction =>
      .error (.signing .unsupportedTransactionType
        ("Cannot build call data: unsupported transaction type "
          ++ s!"\"{transaction.type.toText}\"."))

/-- `Number(chainId)` for integer literals; other numerals are kept by their text. -/
def chainIdNumber : Option String → Number
  | none => .other "NaN"
  | some chainId =>
      match bigInt chainId with
      | .ok n => toNumber n
      | .error _ => .other chainId

/-- Source: `services/sign-service.ts`, `buildBaseTransaction`. -/
def buildBaseTransaction (signArgs : BaseSignArgs) (amount : ℤ) (data : String) :
    Result TransactionSerializable :=
  match signArgs.fee with
  | .gasFee gasPrice gasLimit _ =>
      .ok { «to» := stakingContract, value := amount, data
            chainId := chainIdNumber signArgs.transaction.base.chain.chainId
            gas := gasLimit, gasPrice, nonce := signArgs.nonce }
  | fee =>
      .error (.signing .invalidFeeType
        (s!"BSC requires a GasFee (gasPrice + gasLimit) but received \"{fee.typeText}\". "
          ++ "Use sdk.estimateFee() on a BSC transaction to obtain the correct fee object."))

/-- Source: `services/sign-service.ts`, `buildUnsignedTransaction`. -/
def buildUnsignedTransaction (signArgs : BaseSignArgs) : Result TransactionSerializable := do
  let callData ← buildCallData viem rpc signArgs.transaction
  buildBaseTransaction signArgs callData.amount callData.data

/-- Who signs directly: a private key string, or a viem account by its key. -/
inductive Signer
  | privateKey (value : String)
  | account (key : String)
  deriving DecidableEq, Repr

/-- Source: `services/sign-service.ts`, `sign`. -/
def sign (signArgs : BaseSignArgs) (signer : Signer) : Result String := do
  let unsignedTx ← buildUnsignedTransaction viem rpc signArgs
  match signer with
  | .account key => viem.signTransaction key unsignedTx
  | .privateKey value => do
      let key ← privateKey value
      viem.signTransaction key unsignedTx

/-- Source: `sign-types.ts`, `BscSignArgs`. -/
structure BscSignArgs where
  signArgs : BaseSignArgs
  unsignedTx : Option String
  deriving DecidableEq, Repr

/-- Source: `entity/sign-types.ts`, `PrehashResult`. -/
structure PrehashResult where
  serializedTransaction : String
  signArgs : BscSignArgs
  deriving DecidableEq, Repr

/-- Source: `services/sign-service.ts`, `prehash`. -/
def prehash (signArgs : BaseSignArgs) : Result PrehashResult := do
  let unsignedTx ← buildUnsignedTransaction viem rpc signArgs
  let serializedTransaction ← viem.serializeTransaction unsignedTx none
  return {
    serializedTransaction
    signArgs := { signArgs, unsignedTx := some serializedTransaction } }

/-- Source: `services/sign-service.ts`, `parseTransactionSafely`. -/
def parseTransactionSafely (serializedTransaction : String) : Result TransactionSerializable :=
  match viem.parseTransaction serializedTransaction with
  | .ok tx => .ok tx
  | .error _ =>
      .error (.signing .invalidSigningArgs
        ("compile() could not parse signArgs._unsignedTx — it must be the unmodified value "
          ++ "returned by prehash()."))

/-- Source: `services/sign-service.ts`, `compile`. -/
def compile (signArgs : BscSignArgs) (signature : String) : Result String := do
  let unsignedTx := signArgs.unsignedTx.getD ""
  if unsignedTx = "" then
    throw (.signing .invalidSigningArgs
      "compile() requires signArgs._unsignedTx from prehash().")
  let signature ← viem.parseSignature signature
  let tx ← parseTransactionSafely viem unsignedTx
  let compiled ← viem.serializeTransaction tx (some signature)
  let expectedAccount := signArgs.signArgs.transaction.account.getD ""
  if expectedAccount = "" then
    throw (.signing .missingAccount
      ("compile() requires transaction.account (the expected signer address) to verify the "
        ++ "external signature."))
  let recovered ← viem.recoverTransactionAddress compiled
  let expected ← parseEvmAddress viem expectedAccount
  if viem.getAddress recovered ≠ viem.getAddress expected then
    throw (.signing .signatureMismatch
      ("compile() produced a transaction whose signature does not recover to "
        ++ "transaction.account. This can mean signArgs was mutated after prehash(), or the "
        ++ "supplied signature belongs to a different signer/transaction."))
  return compiled

/-- The external path: prehash, a signature by the holder of `key` over the bytes, compile. -/
def prehashAndCompile (key : String) (signArgs : BaseSignArgs) : Result String := do
  let p ← prehash viem rpc signArgs
  compile viem p.signArgs
    (viem.signatureToHex (viem.signDigest key p.serializedTransaction))

end code

/-! ## What the two paths return -/

/-- There is something to sign: the transaction can be built and serialized. -/
def Buildable (viem : Viem) (rpc : StakingRpcClient) (signArgs : BaseSignArgs) : Prop :=
  ∃ unsignedTx bytes, buildUnsignedTransaction viem rpc signArgs = .ok unsignedTx ∧
    viem.serializeTransaction unsignedTx none = .ok bytes

/-- An account string denotes the address of a key. -/
def Denotes (viem : Viem) (account key : String) : Prop :=
  viem.isAddress account ∧ viem.getAddress account = viem.getAddress (viem.addressOf key)

section paths

variable {viem : Viem} {rpc : StakingRpcClient} {value key account signed : String}
  {signArgs : BaseSignArgs}

/-- Whatever is signed directly was there to be signed, and is the built transaction under the
key's signature; its sender is the key's address. -/
theorem sign_eq_ok (hviem : viem.Lawful key) (hkey : privateKey value = .ok key)
    (h : sign viem rpc signArgs (.privateKey value) = .ok signed) :
    ∃ unsignedTx bytes, buildUnsignedTransaction viem rpc signArgs = .ok unsignedTx ∧
      viem.serializeTransaction unsignedTx none = .ok bytes ∧
      viem.serializeTransaction unsignedTx (some (viem.signDigest key bytes)) = .ok signed ∧
      viem.recoverTransactionAddress signed = .ok (viem.addressOf key) := by
  obtain ⟨unsignedTx, hbuild, h⟩ := bind_eq_ok.mp h
  obtain ⟨key', hkey', h⟩ := bind_eq_ok.mp h
  obtain rfl := Except.ok.inj (hkey.symm.trans hkey')
  obtain ⟨bytes, hbytes, h⟩ := bind_eq_ok.mp h
  obtain ⟨signed', hsigned', hrecover⟩ := hviem.recovers hbytes
  obtain rfl := Except.ok.inj (h.symm.trans hsigned')
  exact ⟨unsignedTx, bytes, hbuild, hbytes, h, hrecover⟩

/-- What can be built is signed directly, whatever `transaction.account` says. -/
theorem exists_sign_eq_ok (hviem : viem.Lawful key) (hkey : privateKey value = .ok key)
    (h : Buildable viem rpc signArgs) :
    ∃ signed, sign viem rpc signArgs (.privateKey value) = .ok signed := by
  obtain ⟨unsignedTx, bytes, hbuild, hbytes⟩ := h
  obtain ⟨signed, hsigned, -⟩ := hviem.recovers hbytes
  refine ⟨signed, ?_⟩
  rw [sign, hbuild]
  simp only [bind, Except.bind, hkey, Viem.signTransaction, hbytes]
  exact hsigned

/-- Compiling a key's signature over serialized bytes returns the transaction under that signature,
and checks that the signer is `transaction.account`. -/
theorem compile_eq_ok (hviem : viem.Lawful key)
    (haccount : signArgs.transaction.account = some account)
    {unsignedTx : TransactionSerializable} {bytes : String}
    (hbytes : viem.serializeTransaction unsignedTx none = .ok bytes) :
    compile viem { signArgs, unsignedTx := some bytes }
        (viem.signatureToHex (viem.signDigest key bytes)) = .ok signed ↔
      viem.serializeTransaction unsignedTx (some (viem.signDigest key bytes)) = .ok signed ∧
        Denotes viem account key := by
  obtain ⟨tx, hparse, hserialize⟩ := hviem.parse_serialize hbytes
  obtain ⟨signed', hsigned', hrecover⟩ := hviem.recovers hbytes
  have hparsed : parseTransactionSafely viem bytes = .ok tx := by
    rw [parseTransactionSafely, hparse]
  have hcompiled := (hserialize _).trans hsigned'
  have hexpected : signArgs.transaction.account.getD "" = account := by rw [haccount]; rfl
  unfold compile
  simp only [Option.getD_some, guard_eq_ok, bind_eq_ok, hviem.serialize_ne_empty hbytes,
    not_false_eq_true, true_and, hviem.parse_signature hbytes, hexpected, Except.ok.injEq,
    exists_eq_left', hparsed, hcompiled, hrecover, parseEvmAddress_eq_ok, hsigned', Denotes]
  constructor
  · rintro ⟨-, _, ⟨haddress, rfl⟩, hmatch, h⟩
    exact ⟨Except.ok.inj h, haddress, (not_not.mp hmatch).symm⟩
  · rintro ⟨rfl, haddress, hmatch⟩
    refine ⟨fun hempty => ?_, account, ⟨haddress, rfl⟩, not_not.mpr hmatch.symm, rfl⟩
    rw [hempty, hviem.isAddress_empty] at haddress
    cases haddress

/-- **The external path returns what direct signing does**, if the signer is
`transaction.account`. -/
theorem prehashAndCompile_eq_ok (hviem : viem.Lawful key) (hkey : privateKey value = .ok key)
    (haccount : signArgs.transaction.account = some account) :
    prehashAndCompile viem rpc key signArgs = .ok signed ↔
      sign viem rpc signArgs (.privateKey value) = .ok signed ∧ Denotes viem account key := by
  constructor
  · intro h
    obtain ⟨p, hp, h⟩ := bind_eq_ok.mp h
    obtain ⟨unsignedTx, hbuild, hp⟩ := bind_eq_ok.mp hp
    obtain ⟨bytes, hbytes, hp⟩ := bind_eq_ok.mp hp
    obtain rfl := Except.ok.inj hp
    obtain ⟨hsigned, hdenotes⟩ := (compile_eq_ok hviem haccount hbytes).mp h
    refine ⟨bind_eq_ok.mpr ⟨unsignedTx, hbuild, bind_eq_ok.mpr ⟨key, hkey, ?_⟩⟩, hdenotes⟩
    exact bind_eq_ok.mpr ⟨bytes, hbytes, hsigned⟩
  · rintro ⟨h, hdenotes⟩
    obtain ⟨unsignedTx, bytes, hbuild, hbytes, hsigned, -⟩ := sign_eq_ok hviem hkey h
    refine bind_eq_ok.mpr
      ⟨_, bind_eq_ok.mpr ⟨unsignedTx, hbuild, bind_eq_ok.mpr ⟨bytes, hbytes, rfl⟩⟩,
      (compile_eq_ok hviem haccount hbytes).mpr ⟨hsigned, hdenotes⟩⟩

end paths

/-! ## Shares -/

/-- `transaction.isMaxAmount`; false where a transaction has no such field. -/
def isMaxAmount : Transaction → Bool
  | .delegate _ isMaxAmount _ _ => isMaxAmount
  | .undelegate _ isMaxAmount _ _ _ => isMaxAmount
  | .redelegate _ isMaxAmount _ _ => isMaxAmount
  | _ => false

/-- The call data of an Undelegate or Redelegate carries a share count. -/
inductive EncodesShares (viem : Viem) : Transaction → ℤ → String → Prop
  | undelegate {base : BaseTransaction} {isMaxAmount : Bool} {validator : Option ValidatorRef}
      {resource stakeAccount : Option String} {operatorAddress data : String} {shares : ℤ}
      (h : encodeUndelegate viem operatorAddress shares = .ok data) :
      EncodesShares viem (.undelegate base isMaxAmount validator resource stakeAccount) shares data
  | redelegate {base : BaseTransaction} {isMaxAmount : Bool}
      {fromValidator toValidator : ValidatorRef} {fromAddress toAddress data : String} {shares : ℤ}
      (h : encodeRedelegate viem fromAddress toAddress shares = .ok data) :
      EncodesShares viem (.redelegate base isMaxAmount fromValidator toValidator) shares data

/-- The transaction types that carry shares. -/
def CarriesShares (transaction : Transaction) : Prop :=
  transaction.type = .undelegate ∨ transaction.type = .redelegate

section shares

variable {viem : Viem} {rpc : StakingRpcClient}

/-- For `isMaxAmount` the shares are the balance of `transaction.account`. -/
theorem bnbToShares_max {base : BaseTransaction} {validator : ValidatorRef} {shares : ℤ}
    (h : bnbToShares viem rpc base true validator = .ok shares) :
    ∃ creditAddress account, base.account = some account ∧
      rpc.getShareBalance creditAddress account = .ok shares := by
  cases validator with
  | operatorAddress _ => cases h
  | validator v =>
      obtain ⟨creditAddress, -, h⟩ := bind_eq_ok.mp h
      rw [if_pos rfl] at h
      cases haccount : base.account with
      | none =>
          rw [haccount] at h
          cases h
      | some account =>
          rw [haccount] at h
          obtain ⟨delegator, hdelegator, h⟩ := bind_eq_ok.mp h
          obtain ⟨-, rfl⟩ := parseEvmAddress_eq_ok.mp hdelegator
          exact ⟨creditAddress, account, rfl, h⟩

/-- **The share count of an `isMaxAmount` transaction** is the balance of `transaction.account`. -/
theorem buildCallData_max {transaction : Transaction} (hmax : isMaxAmount transaction = true)
    (htype : CarriesShares transaction) {callData : CallData}
    (h : buildCallData viem rpc transaction = .ok callData) :
    ∃ creditAddress account shares, transaction.account = some account ∧
      rpc.getShareBalance creditAddress account = .ok shares ∧
      EncodesShares viem transaction shares callData.data := by
  cases transaction with
  | undelegate base isMax validator resource stakeAccount =>
      obtain rfl : isMax = true := hmax
      obtain ⟨v, -, h⟩ := bind_eq_ok.mp h
      obtain ⟨shares, hshares, h⟩ := bind_eq_ok.mp h
      obtain ⟨operatorAddress, -, h⟩ := bind_eq_ok.mp h
      obtain ⟨data, hdata, h⟩ := bind_eq_ok.mp h
      obtain rfl := Except.ok.inj h
      obtain ⟨creditAddress, account, haccount, hread⟩ := bnbToShares_max hshares
      exact ⟨creditAddress, account, shares, haccount, hread, .undelegate hdata⟩
  | redelegate base isMax fromValidator toValidator =>
      obtain rfl : isMax = true := hmax
      obtain ⟨shares, hshares, h⟩ := bind_eq_ok.mp h
      obtain ⟨fromAddress, -, h⟩ := bind_eq_ok.mp h
      obtain ⟨toAddress, -, h⟩ := bind_eq_ok.mp h
      obtain ⟨data, hdata, h⟩ := bind_eq_ok.mp h
      obtain rfl := Except.ok.inj h
      obtain ⟨creditAddress, account, haccount, hread⟩ := bnbToShares_max hshares
      exact ⟨creditAddress, account, shares, haccount, hread, .redelegate hdata⟩
  | _ => rcases htype with h | h <;> cases h

/-- A built transaction carries the call data. -/
theorem buildUnsignedTransaction_eq_ok {signArgs : BaseSignArgs}
    {unsignedTx : TransactionSerializable}
    (h : buildUnsignedTransaction viem rpc signArgs = .ok unsignedTx) :
    ∃ callData, buildCallData viem rpc signArgs.transaction = .ok callData ∧
      unsignedTx.data = callData.data := by
  obtain ⟨callData, hcallData, h⟩ := bind_eq_ok.mp h
  refine ⟨callData, hcallData, ?_⟩
  unfold buildBaseTransaction at h
  split at h
  · obtain rfl := Except.ok.inj h
    rfl
  · cases h

end shares

/-! ## Agreement -/

section agreement

variable {viem : Viem} {rpc : StakingRpcClient} {value key account : String}
  {signArgs : BaseSignArgs}

/-- **What is asked of direct signing**: it returns what the external path returns; its sender is
`transaction.account`; and for `isMaxAmount` the share count is that of the sender. -/
structure SignsAsCompiled (viem : Viem) (rpc : StakingRpcClient) (value key : String)
    (signArgs : BaseSignArgs) : Prop where
  agree : ∀ signed, sign viem rpc signArgs (.privateKey value) = .ok signed ↔
    prehashAndCompile viem rpc key signArgs = .ok signed
  sender : ∀ signed, sign viem rpc signArgs (.privateKey value) = .ok signed →
    ∃ recovered account, viem.recoverTransactionAddress signed = .ok recovered ∧
      signArgs.transaction.account = some account ∧
      viem.getAddress recovered = viem.getAddress account
  maxShares : ∀ signed, sign viem rpc signArgs (.privateKey value) = .ok signed →
    isMaxAmount signArgs.transaction = true → CarriesShares signArgs.transaction →
    ∃ recovered unsignedTx creditAddress account shares,
      viem.recoverTransactionAddress signed = .ok recovered ∧
      buildUnsignedTransaction viem rpc signArgs = .ok unsignedTx ∧
      rpc.getShareBalance creditAddress account = .ok shares ∧
      EncodesShares viem signArgs.transaction shares unsignedTx.data ∧
      viem.getAddress account = viem.getAddress recovered

/-- **Direct signing is bound to `transaction.account`** exactly if the key is that account's, or if
there is nothing to sign, so that both paths fail. -/
theorem sign_agrees_iff (hviem : viem.Lawful key) (hkey : privateKey value = .ok key)
    (haccount : signArgs.transaction.account = some account) :
    SignsAsCompiled viem rpc value key signArgs ↔
      Denotes viem account key ∨ ¬Buildable viem rpc signArgs := by
  constructor
  · intro h
    apply or_iff_not_imp_right.mpr
    intro hbuildable
    obtain ⟨signed, hsigned⟩ := exists_sign_eq_ok hviem hkey (not_not.mp hbuildable)
    exact ((prehashAndCompile_eq_ok hviem hkey haccount).mp ((h.agree signed).mp hsigned)).2
  · intro h
    have hdenotes : ∀ signed, sign viem rpc signArgs (.privateKey value) = .ok signed →
        Denotes viem account key := by
      intro signed hsigned
      refine h.resolve_right (not_not.mpr ?_)
      obtain ⟨unsignedTx, bytes, hbuild, hbytes, -⟩ := sign_eq_ok hviem hkey hsigned
      exact ⟨unsignedTx, bytes, hbuild, hbytes⟩
    refine ⟨fun signed => ?_, fun signed hsigned => ?_, fun signed hsigned hmax htype => ?_⟩
    · rw [prehashAndCompile_eq_ok hviem hkey haccount]
      exact ⟨fun hsigned => ⟨hsigned, hdenotes signed hsigned⟩, And.left⟩
    · obtain ⟨-, -, -, -, -, hrecover⟩ := sign_eq_ok hviem hkey hsigned
      exact ⟨_, account, hrecover, haccount, (hdenotes signed hsigned).2.symm⟩
    · obtain ⟨unsignedTx, -, hbuild, -, -, hrecover⟩ := sign_eq_ok hviem hkey hsigned
      obtain ⟨callData, hcallData, hdata⟩ := buildUnsignedTransaction_eq_ok hbuild
      obtain ⟨creditAddress, account', shares, haccount', hread, hencodes⟩ :=
        buildCallData_max hmax htype hcallData
      obtain rfl := Option.some.inj (haccount.symm.trans haccount')
      exact ⟨_, unsignedTx, creditAddress, account, shares, hrecover, hbuild, hread,
        hdata ▸ hencodes, (hdenotes signed hsigned).2⟩

end agreement

/-! ### A Delegate signed with another key -/

/-- A validator, the address of the key below, and another address. -/
def operator : String := "0x773760b0708a5Cc369c346993a0c225D8e4043B1"

@[inherit_doc operator]
def signerAddress : String := "0xf39Fd6e51aad88F6F4ce6aB8827279cffFb92266"

@[inherit_doc operator]
def otherAddress : String := "0x343dA7Ff0446247ca47AA41e2A25c5Bbb230ED0A"

/-- The key. -/
def signerKey : String := "0xac0974bec39a17e36ba4a6b4d238ff944bacb478cbed5efcae784d7bf4f2ff80"

/-- The arguments of `delegate(address,bool)`, encoded. -/
def delegateParams : String :=
  "000000000000000000000000773760b0708a5cc369c346993a0c225d8e4043b1" ++
  "0000000000000000000000000000000000000000000000000000000000000000"

/-- The transaction that is built: 1 BNB to the validator. -/
def delegateTx : TransactionSerializable :=
  { «to» := stakingContract, value := 10 ^ 18, data := "0x982ef0a7" ++ delegateParams
    chainId := .int 56, gas := 21000, gasPrice := 5000000000, nonce := .int 1 }

/-- Its bytes, the signature of the key over them, and the signed transaction. -/
def delegateBytes : String :=
  "0xf8710185012a05f200825208940000000000000000000000000000000000002002880de0b6b3a76400" ++
  "00b844982ef0a7000000000000000000000000773760b0708a5cc369c346993a0c225d8e4043b1000000" ++
  "0000000000000000000000000000000000000000000000000000000000388080"

@[inherit_doc delegateBytes]
def delegateSignature : Signature :=
  { r := "0x73b31800d2b2de7c7881324090fc069a01d0801b8b4e0dcf4bdb88478753b61f"
    s := "0x70270d13b7ac554d4fcfe90de6482cbacbea4f695c474ef69c2510be97aef450"
    yParity := 0 }

@[inherit_doc delegateBytes]
def delegateSignatureHex : String :=
  "0x73b31800d2b2de7c7881324090fc069a01d0801b8b4e0dcf4bdb88478753b61f" ++
  "70270d13b7ac554d4fcfe90de6482cbacbea4f695c474ef69c2510be97aef4501b"

@[inherit_doc delegateBytes]
def delegateSigned : String :=
  "0xf8b20185012a05f200825208940000000000000000000000000000000000002002880de0b6b3a76400" ++
  "00b844982ef0a7000000000000000000000000773760b0708a5cc369c346993a0c225d8e4043b1000000" ++
  "00000000000000000000000000000000000000000000000000000000008193a073b31800d2b2de7c7881" ++
  "324090fc069a01d0801b8b4e0dcf4bdb88478753b61fa070270d13b7ac554d4fcfe90de6482cbacbea4f" ++
  "695c474ef69c2510be97aef450"

/-- `viem` on that transaction and that key. -/
def delegateViem : Viem where
  isAddress := fun address => address ∈ [operator, signerAddress, otherAddress]
  getAddress := id
  formatEther := fun amount => toString amount
  toFunctionSelector := fun functionSignature =>
    if functionSignature = "delegate(address,bool)" then "0x982ef0a7" else ""
  encodeAbiParameters := fun params =>
    if params = [.address operator, .bool false] then .ok ("0x" ++ delegateParams)
    else .error (.foreign "no vector")
  serializeTransaction := fun tx signature =>
    if tx = delegateTx ∧ signature = none then .ok delegateBytes
    else if tx = delegateTx ∧ signature = some delegateSignature then .ok delegateSigned
    else .error (.foreign "no vector")
  parseTransaction := fun bytes =>
    if bytes = delegateBytes then .ok delegateTx else .error (.foreign "no vector")
  parseSignature := fun signature =>
    if signature = delegateSignatureHex then .ok delegateSignature
    else .error (.foreign "no vector")
  signatureToHex := fun signature =>
    if signature = delegateSignature then delegateSignatureHex else ""
  recoverTransactionAddress := fun signed =>
    if signed = delegateSigned then .ok signerAddress else .error (.foreign "no vector")
  addressOf := fun key => if key = signerKey then signerAddress else ""
  signDigest := fun key bytes =>
    if key = signerKey ∧ bytes = delegateBytes then delegateSignature else ⟨"", "", 0⟩

theorem lawful_delegateViem : delegateViem.Lawful signerKey := by
  have hbytes : ∀ {tx bytes}, delegateViem.serializeTransaction tx none = .ok bytes →
      tx = delegateTx ∧ bytes = delegateBytes := by
    intro tx bytes h
    by_cases htx : tx = delegateTx
    · subst htx
      exact ⟨rfl, (Except.ok.inj h).symm⟩
    · simp [delegateViem, htx] at h
  refine ⟨by decide +kernel, fun h => ?_, fun h => ?_, fun h => ?_, fun h => ?_⟩
  all_goals obtain ⟨rfl, rfl⟩ := hbytes h
  · decide +kernel
  · exact ⟨delegateTx, by decide +kernel, fun _ => rfl⟩
  · decide +kernel
  · exact ⟨delegateSigned, by decide +kernel, by decide +kernel⟩

/-- Share reads; a Delegate makes none. -/
def noShares : StakingRpcClient where
  getSharesByPooledBNBData := fun _ _ => .ok 0
  getShareBalance := fun _ _ => .ok 0

/-- The Delegate, with an account. -/
def delegateArgs (account : String) : BaseSignArgs where
  transaction :=
    .delegate
      { chain := { id := "bsc-mainnet", chainId := some "56" }, amount := 10 ^ 18,
        account := some account }
      false (some (.operatorAddress operator)) none
  fee := .gasFee 5000000000 21000 105000000000000
  nonce := .int 1

/-- With the key's own address as account the two paths agree. -/
theorem sign_agrees_delegate :
    SignsAsCompiled delegateViem noShares signerKey signerKey (delegateArgs signerAddress) :=
  (sign_agrees_iff lawful_delegateViem (by decide +kernel) rfl).mpr
    (Or.inl ⟨by decide +kernel, by decide +kernel⟩)

/-- **Direct signing does not look at the account**: with another address as account it signs what
the external path refuses to compile. -/
theorem sign_ignoresAccount :
    sign delegateViem noShares (delegateArgs otherAddress) (.privateKey signerKey) =
        .ok delegateSigned ∧
      delegateViem.recoverTransactionAddress delegateSigned = .ok signerAddress ∧
      (∀ signed, prehashAndCompile delegateViem noShares signerKey (delegateArgs otherAddress) ≠
        .ok signed) ∧
      ¬SignsAsCompiled delegateViem noShares signerKey signerKey (delegateArgs otherAddress) := by
  have hsign : sign delegateViem noShares (delegateArgs otherAddress) (.privateKey signerKey) =
      .ok delegateSigned := by decide +kernel
  have hrefused : ∀ signed, prehashAndCompile delegateViem noShares signerKey
      (delegateArgs otherAddress) ≠ .ok signed := by
    intro signed h
    have hkey : privateKey signerKey = .ok signerKey := by decide +kernel
    have haccount : (delegateArgs otherAddress).transaction.account = some otherAddress := rfl
    have hdenotes := ((prehashAndCompile_eq_ok lawful_delegateViem hkey haccount).mp h).2
    exact absurd hdenotes.2 (by decide +kernel)
  exact ⟨hsign, by decide +kernel, hrefused, fun h => hrefused _ ((h.agree _).mp hsign)⟩

end GuardianStake.Bsc
