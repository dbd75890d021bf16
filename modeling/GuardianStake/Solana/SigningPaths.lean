import GuardianStake.Solana.Claimable
import GuardianStake.Solana.SignService

/-!
# The two signing paths

`sign` on the one hand, `prehash`, an external signer and `compile` on the other, of
`services/sign-service.ts`.

* `sign_eq_ok`, `prehash_eq_ok`, `compile_eq_ok` — what each call has gone through when it returns.
* `sign_eq_ok_iff_prehashAndCompile` — **the paths agree**: direct signing returns what the external
  path does with the account filled in; it refuses another account, and a Delegate without one.
* `compile_eq_ok_iff_of_onlyFor` — **compile is tamper-evident**: with a signature that is good for
  the message of `prehash` only, whatever arguments `compile` accepts, it returns the same text.
-/

namespace GuardianStake.Solana

open Sdk

/-! ## What each call goes through -/

section calls

variable (kit : SolanaKit) (signer : SigningKit) (rpc : SolanaRpcClient)
  (config : SolanaSignServiceConfig)

/-- The unsigned transaction of the arguments under an authority. -/
def unsignedOf (args : BaseSignArgs) (authority : String) : Result KitTransaction := do
  let fee ← assertSolanaFeeToSign args.fee
  let built ← buildUnsignedTx kit (signDeps rpc config authority fee) args.transaction args.fee
  signer.compileTransaction built.message

/-- A transaction with the signature of an address added. -/
def KitTransaction.withSignature (t : KitTransaction) (address : String) (signature : List UInt8) :
    KitTransaction :=
  { t with signatures := t.signatures.set address (some signature) }

/-- What the arguments of `compile` have to be. -/
structure Compiles (args : CompileArgs) (feePayer : String) (unsigned : KitTransaction)
    (sigBytes : List UInt8) : Prop where
  wire : ∃ w, args.signArgs.wireTransaction = some w ∧ w ≠ "" ∧
    decodeWireTransaction signer w = .ok unsigned
  account : args.signArgs.transaction.account = some feePayer
  account_ne : feePayer ≠ ""
  message : args.signArgs.messageBytes = some unsigned.messageBytes
  signature : args.signature ≠ "" ∧ signer.base64Encode args.signature = .ok sigBytes ∧
    sigBytes.length = 64
  verifies : ∃ publicKey, signer.getPublicKeyFromAddress feePayer = .ok publicKey ∧
    signer.verifySignature publicKey sigBytes unsigned.messageBytes = true
  isSigner : unsigned.signatures.has feePayer = true

end calls

section specs

variable {kit : SolanaKit} {signer : SigningKit} {rpc : SolanaRpcClient}
  {config : SolanaSignServiceConfig} {args : BaseSignArgs}

/-- What is unsigned under an authority has its one signature to add. -/
theorem keys_of_unsignedOf (hsigner : signer.Lawful) {authority : String}
    {compiled : KitTransaction}
    (h : unsignedOf kit signer rpc config args authority = .ok compiled) :
    compiled.signatures.entries.map Prod.fst = [authority] := by
  obtain ⟨fee, -, h⟩ := bind_eq_ok.mp h
  obtain ⟨built, hbuilt, hcompiled⟩ := bind_eq_ok.mp h
  exact (buildUnsignedTx_signers hbuilt).keys hsigner hcompiled

/-- What is unsigned reads back from its wire text. -/
theorem readsBack_of_unsignedOf (hsigner : signer.Lawful) {authority : String}
    {compiled : KitTransaction}
    (h : unsignedOf kit signer rpc config args authority = .ok compiled) :
    signer.getBase64EncodedWireTransaction compiled ≠ "" ∧
      decodeWireTransaction signer (signer.getBase64EncodedWireTransaction compiled) = .ok compiled ∧
      signer.base64Encode (signer.base64Decode compiled.messageBytes) =
        .ok compiled.messageBytes := by
  obtain ⟨fee, -, h⟩ := bind_eq_ok.mp h
  obtain ⟨built, -, hcompiled⟩ := bind_eq_ok.mp h
  exact hsigner.readsBack hcompiled

/-- **Direct signing** goes through the seed, the account and the unsigned transaction. -/
theorem sign_eq_ok (hsigner : signer.Lawful) {privateKey text : String} {seed : List UInt8}
    (hseed : parseEd25519SeedHex signer privateKey = .ok seed) :
    sign kit signer rpc config { args with privateKey } = .ok text ↔
      (args.transaction.account.getD "" = "" ∨
        args.transaction.account = some (signer.addressOf seed)) ∧
      ∃ compiled, unsignedOf kit signer rpc config args (signer.addressOf seed) = .ok compiled ∧
        text = signer.getBase64EncodedWireTransaction (compiled.withSignature
          (signer.addressOf seed) (signer.signBytes seed compiled.messageBytes)) := by
  simp only [sign, buildUnsignedBytes, bind_eq_ok, hseed, guard_eq_ok]
  constructor
  · rintro ⟨fee, hfee, _, ⟨⟩, haccount, bytes, ⟨built, hbuilt, compiled, hcompiled, h⟩, unsigned,
      hunsigned, signed, hsigned, ⟨⟩⟩
    obtain rfl := Except.ok.inj h
    have hcut : unsignedOf kit signer rpc config args (signer.addressOf seed) = .ok compiled :=
      bind_eq_ok.mpr ⟨fee, hfee, bind_eq_ok.mpr ⟨built, hbuilt, hcompiled⟩⟩
    have hread := (readsBack_of_unsignedOf hsigner hcut).2.1
    obtain rfl := Except.ok.inj (hread.symm.trans hunsigned)
    have hkeys := keys_of_unsignedOf hsigner hcut
    obtain rfl := Except.ok.inj ((hsigner.signTransaction hkeys).symm.trans hsigned)
    exact ⟨by tauto, compiled, hcut, rfl⟩
  · rintro ⟨haccount, compiled, hcut, rfl⟩
    have hread := (readsBack_of_unsignedOf hsigner hcut).2.1
    have hkeys := keys_of_unsignedOf hsigner hcut
    obtain ⟨fee, hfee, h⟩ := bind_eq_ok.mp hcut
    obtain ⟨built, hbuilt, hcompiled⟩ := bind_eq_ok.mp h
    exact ⟨fee, hfee, seed, rfl, by tauto, _, ⟨built, hbuilt, compiled, hcompiled, rfl⟩, compiled,
      hread, _, hsigner.signTransaction hkeys, rfl⟩

/-- **Prehash** goes through the account and the unsigned transaction. -/
theorem prehash_eq_ok {result : PrehashResult} :
    prehash kit signer rpc config args = .ok result ↔
      ∃ authority compiled, args.transaction.account = some authority ∧
        isBlank authority = false ∧
        unsignedOf kit signer rpc config args authority = .ok compiled ∧
        result =
          { serializedTransaction := signer.base64Decode compiled.messageBytes
            signArgs :=
              { args with
                messageBytes := some compiled.messageBytes
                wireTransaction := some (signer.getBase64EncodedWireTransaction compiled) } } := by
  simp only [prehash, buildUnsignedBytes, bind_eq_ok, guard_eq_ok]
  constructor
  · rintro ⟨fee, hfee, hblank, bytes, ⟨built, hbuilt, compiled, hcompiled, h⟩, ⟨⟩⟩
    obtain rfl := Except.ok.inj h
    cases haccount : args.transaction.account with
    | none => exact absurd (by rw [haccount]; decide) hblank
    | some authority =>
        rw [haccount] at hblank hbuilt
        exact ⟨authority, compiled, rfl, Bool.eq_false_iff.mpr hblank,
          bind_eq_ok.mpr ⟨fee, hfee, bind_eq_ok.mpr ⟨built, hbuilt, hcompiled⟩⟩, rfl⟩
  · rintro ⟨authority, compiled, haccount, hblank, hcut, rfl⟩
    obtain ⟨fee, hfee, h⟩ := bind_eq_ok.mp hcut
    obtain ⟨built, hbuilt, hcompiled⟩ := bind_eq_ok.mp h
    rw [haccount]
    exact ⟨fee, hfee, Bool.eq_false_iff.mp hblank, _, ⟨built, hbuilt, compiled, hcompiled, rfl⟩,
      rfl⟩

/-- A signature of 64 bytes is attached for an address that has to sign. -/
theorem attachFeePayerSignature_eq_ok {unsigned signed : KitTransaction} {feePayer : String}
    {signature : List UInt8} :
    attachFeePayerSignature unsigned feePayer signature = .ok signed ↔
      signature.length = 64 ∧ unsigned.signatures.has feePayer = true ∧
        signed = unsigned.withSignature feePayer signature := by
  unfold attachFeePayerSignature
  rw [guard_eq_ok, guard_eq_ok, not_not, Bool.not_eq_true, Bool.not_eq_false']
  apply and_congr_right
  intro _
  apply and_congr_right
  intro _
  exact ⟨fun h => (Except.ok.inj h).symm, fun h => h ▸ rfl⟩

/-- **Compile** goes through its arguments, and attaches the signature. -/
theorem compile_eq_ok {args : CompileArgs} {text : String} :
    compile signer args = .ok text ↔
      ∃ feePayer unsigned sigBytes, Compiles signer args feePayer unsigned sigBytes ∧
        text = signer.getBase64EncodedWireTransaction (unsigned.withSignature feePayer sigBytes) := by
  simp only [compile]
  constructor
  · intro h
    obtain ⟨hwire, h⟩ := guard_eq_ok.mp h
    obtain ⟨hsignature, h⟩ := guard_eq_ok.mp h
    obtain ⟨sigBytes, hbytes, h⟩ := bind_eq_ok.mp h
    obtain ⟨hfeePayer, h⟩ := guard_eq_ok.mp h
    obtain ⟨unsigned, hunsigned, h⟩ := bind_eq_ok.mp h
    cases hmessage : args.signArgs.messageBytes with
    | none =>
        rw [hmessage] at h
        cases h
    | some expected =>
        rw [hmessage] at h
        obtain ⟨hequal, h⟩ := guard_eq_ok.mp h
        obtain ⟨hlen, h⟩ := guard_eq_ok.mp h
        obtain ⟨publicKey, hkey, h⟩ := bind_eq_ok.mp h
        obtain ⟨hverify, h⟩ := guard_eq_ok.mp h
        obtain ⟨signed, hsigned, h⟩ := bind_eq_ok.mp h
        obtain ⟨-, hsigner, rfl⟩ := attachFeePayerSignature_eq_ok.mp hsigned
        obtain rfl := Except.ok.inj h
        rw [Bool.not_eq_true, Bool.not_eq_false'] at hequal hverify
        obtain rfl := constantTimeBytesEqual_iff.mp hequal
        exact ⟨args.signArgs.transaction.account.getD "", unsigned, sigBytes,
          ⟨⟨_, eq_some_getD hwire, hwire, hunsigned⟩, eq_some_getD hfeePayer, hfeePayer, hmessage,
            ⟨hsignature, hbytes, not_not.mp hlen⟩, ⟨publicKey, hkey, hverify⟩, hsigner⟩, rfl⟩
  · rintro ⟨feePayer, unsigned, sigBytes, h, rfl⟩
    obtain ⟨w, hwire, hw, hunsigned⟩ := h.wire
    obtain ⟨hsignature, hbytes, hlen⟩ := h.signature
    obtain ⟨publicKey, hkey, hverify⟩ := h.verifies
    rw [hwire, h.account, h.message]
    refine guard_eq_ok.mpr ⟨hw, guard_eq_ok.mpr ⟨hsignature, bind_eq_ok.mpr ⟨sigBytes, hbytes,
      guard_eq_ok.mpr ⟨h.account_ne, bind_eq_ok.mpr ⟨unsigned, hunsigned, ?_⟩⟩⟩⟩⟩
    have hequal : constantTimeBytesEqual unsigned.messageBytes unsigned.messageBytes = true :=
      constantTimeBytesEqual_iff.mpr rfl
    refine guard_eq_ok.mpr ⟨by simp [hequal], guard_eq_ok.mpr ⟨not_not.mpr hlen,
      bind_eq_ok.mpr ⟨publicKey, hkey, guard_eq_ok.mpr ⟨by simp [hverify],
        bind_eq_ok.mpr ⟨unsigned.withSignature feePayer sigBytes, ?_, rfl⟩⟩⟩⟩⟩
    exact attachFeePayerSignature_eq_ok.mpr ⟨hlen, h.isSigner, rfl⟩

end specs

/-! ## The paths agree -/

section agree

variable (kit : SolanaKit) (signer : SigningKit) (rpc : SolanaRpcClient)
  (config : SolanaSignServiceConfig)

/-- An external signer with a seed: it reads the bytes it is sent and signs them. -/
def signExternally (seed : List UInt8) (serializedTransaction : String) : Result String := do
  let message ← signer.base64Encode serializedTransaction
  return signer.base64Decode (signer.signBytes seed message)

/-- The external path: `prehash`, the external signer, `compile`. -/
def prehashAndCompile (args : BaseSignArgs) (seed : List UInt8) : Result String := do
  let result ← prehash kit signer rpc config args
  let signature ← signExternally signer seed result.serializedTransaction
  compile signer { signArgs := result.signArgs, signature }

variable {kit signer rpc config} {args : BaseSignArgs} {seed : List UInt8} {text : String}

/-- For the address of the seed the external path ends in the transaction with its signature. -/
theorem prehashAndCompile_eq_ok (hsigner : signer.Lawful)
    (haccount : args.transaction.account = some (signer.addressOf seed)) :
    prehashAndCompile kit signer rpc config args seed = .ok text ↔
      ∃ compiled, unsignedOf kit signer rpc config args (signer.addressOf seed) = .ok compiled ∧
        text = signer.getBase64EncodedWireTransaction (compiled.withSignature
          (signer.addressOf seed) (signer.signBytes seed compiled.messageBytes)) := by
  simp only [prehashAndCompile, bind_eq_ok, prehash_eq_ok, signExternally]
  constructor
  · rintro ⟨result, ⟨authority, compiled, hauthority, -, hcut, rfl⟩, signature,
      ⟨message, hmessage, hsignature⟩, hcompile⟩
    obtain rfl := Except.ok.inj hsignature
    obtain rfl := Option.some.inj (haccount.symm.trans hauthority)
    obtain ⟨hwire, hread, hbytes⟩ := readsBack_of_unsignedOf hsigner hcut
    obtain rfl := Except.ok.inj (hbytes.symm.trans hmessage)
    obtain ⟨feePayer, unsigned, sigBytes, h, rfl⟩ := compile_eq_ok.mp hcompile
    obtain rfl := Option.some.inj (haccount.symm.trans h.account)
    obtain ⟨w, hw, -, hunsigned⟩ := h.wire
    obtain rfl := Option.some.inj hw
    obtain rfl := Except.ok.inj (hread.symm.trans hunsigned)
    have hsig := h.signature.2.1
    rw [(hsigner.signature seed compiled.messageBytes).2.2] at hsig
    obtain rfl := Except.ok.inj hsig
    exact ⟨compiled, hcut, rfl⟩
  · rintro ⟨compiled, hcut, rfl⟩
    obtain ⟨hwire, hread, hbytes⟩ := readsBack_of_unsignedOf hsigner hcut
    obtain ⟨hlen, hne, hsignature⟩ := hsigner.signature seed compiled.messageBytes
    obtain ⟨publicKey, hkey, hverify⟩ := hsigner.verifies seed
    have haddress := hsigner.address seed
    refine ⟨_, ⟨_, compiled, haccount, haddress, hcut, rfl⟩, _, ⟨_, hbytes, rfl⟩, ?_⟩
    refine compile_eq_ok.mpr ⟨_, compiled, _, ⟨⟨_, rfl, hwire, hread⟩, haccount, ?_, rfl,
      ⟨hne, hsignature, hlen⟩, ⟨publicKey, hkey, hverify _⟩, ?_⟩, rfl⟩
    · intro hempty
      rw [hempty] at haddress
      exact absurd haddress (by decide)
    · simp [JsMap.has, keys_of_unsignedOf hsigner hcut]

/-- A filled-in account is looked at by a Delegate only. -/
theorem unsignedOf_withAccount {account authority : String}
    (htype : args.transaction.type ≠ .delegate) :
    unsignedOf kit signer rpc config (args.withAccount account) authority =
      unsignedOf kit signer rpc config args authority := by
  obtain ⟨tx, fee, nonce⟩ := args
  cases tx with
  | delegate => exact absurd rfl htype
  | undelegate | redelegate | claimDelegate | claimRewards | vote => rfl

/-- A Delegate without an account is not built. -/
theorem unsignedOf_delegate_ne_ok {authority : String} {compiled : KitTransaction}
    (htype : args.transaction.type = .delegate) (haccount : args.transaction.account.getD "" = "") :
    unsignedOf kit signer rpc config args authority ≠ .ok compiled := by
  intro h
  obtain ⟨fee, -, h⟩ := bind_eq_ok.mp h
  obtain ⟨built, hbuilt, -⟩ := bind_eq_ok.mp h
  obtain ⟨tx, txFee, nonce⟩ := args
  cases tx with
  | delegate base isMaxAmount validator resource =>
      obtain ⟨_, -, hbuilt⟩ := bind_eq_ok.mp hbuilt
      obtain ⟨_, -, hbuilt⟩ := bind_eq_ok.mp hbuilt
      obtain ⟨_, hassert, -⟩ := bind_eq_ok.mp hbuilt
      have hblank : isBlank (base.account.getD "") = true := by
        rw [show base.account.getD "" = "" from haccount]
        decide
      unfold assertDelegate at hassert
      exact absurd hblank (guard_eq_ok.mp hassert).1
  | undelegate | redelegate | claimDelegate | claimRewards | vote => cases htype

/-- An account that is the filled-in one. -/
theorem withAccount_of_account {account : String}
    (haccount : args.transaction.account = some account) : args.withAccount account = args := by
  obtain ⟨tx, fee, nonce⟩ := args
  cases tx with
  | delegate base | undelegate base | redelegate base | claimDelegate base | claimRewards base
  | vote base =>
      obtain ⟨chain, amount, _⟩ := base
      obtain rfl : _ = some account := haccount
      rfl

/-- **The two paths agree.** What direct signing returns is what the external path returns with the
account filled in, and it returns something when that does, unless the arguments name another
account, or are a Delegate that names none. -/
theorem sign_eq_ok_iff_prehashAndCompile (hsigner : signer.Lawful) {privateKey : String}
    (hseed : parseEd25519SeedHex signer privateKey = .ok seed) :
    sign kit signer rpc config { args with privateKey } = .ok text ↔
      (args.transaction.account = some (signer.addressOf seed) ∨
        args.transaction.account.getD "" = "" ∧ args.transaction.type ≠ .delegate) ∧
      prehashAndCompile kit signer rpc config (args.withAccount (signer.addressOf seed)) seed =
        .ok text := by
  have hfilled : (args.withAccount (signer.addressOf seed)).transaction.account =
      some (signer.addressOf seed) := Transaction.account_withAccount _ _
  rw [sign_eq_ok hsigner hseed, prehashAndCompile_eq_ok hsigner hfilled]
  constructor
  · rintro ⟨haccount, compiled, hcut, rfl⟩
    rcases haccount with hempty | haccount
    · have htype : args.transaction.type ≠ .delegate := fun htype =>
        unsignedOf_delegate_ne_ok htype hempty hcut
      exact ⟨Or.inr ⟨hempty, htype⟩, compiled, (unsignedOf_withAccount htype).trans hcut, rfl⟩
    · rw [withAccount_of_account haccount]
      exact ⟨Or.inl haccount, compiled, hcut, rfl⟩
  · rintro ⟨haccount | ⟨hempty, htype⟩, compiled, hcut, rfl⟩
    · rw [withAccount_of_account haccount] at hcut
      exact ⟨Or.inr haccount, compiled, hcut, rfl⟩
    · rw [unsignedOf_withAccount htype] at hcut
      exact ⟨Or.inl hempty, compiled, hcut, rfl⟩

end agree

/-! ### An Undelegate, signed -/

/-- The seed of a keypair, its bytes, its address and its public key. -/
def signerSeedHex : String := "9d61b19deffd5a60ba844af492ec2cc44449c5697b326919703bac031cae7f60"

@[inherit_doc signerSeedHex]
def signerSeed : List UInt8 :=
  [157, 97, 177, 157, 239, 253, 90, 96, 186, 132, 74, 244, 146, 236, 44, 196, 68, 73, 197, 105,
    123, 50, 105, 25, 112, 59, 172, 3, 28, 174, 127, 96]

@[inherit_doc signerSeedHex]
def signerAddress : String := "FVen3X669xLzsi6N2V91DoiyzHzg1uAgqiT8jZ9nS96Z"

@[inherit_doc signerSeedHex]
def signerKey : List UInt8 :=
  [215, 90, 152, 1, 130, 177, 10, 183, 213, 75, 254, 211, 201, 100, 7, 58, 14, 225, 114, 243, 218,
    166, 35, 37, 175, 2, 26, 104, 247, 7, 81, 26]

/-- The stake account of that address at the seed `"0"`. -/
def signerStake : String := "AMsjX15N5LeJJfTzu63kxgeqZwnVXDYkBATgS947dXcc"

/-- One SOL delegated there at epoch 700, never deactivated. -/
def signerStakeState : StakeStateV2 :=
  .stake
    { rentExemptReserve := 2282880, staker := signerAddress, withdrawer := signerAddress
      lockup :=
        { unixTimestamp := 0, epoch := 0, custodian := "11111111111111111111111111111111" } }
    { voterPubkey := "CertusDeBmqN8ZawdkxK5kFGMwBXdudvWHYwtNgNhvLu", stake := 1000000000,
      activationEpoch := 700, deactivationEpoch := u64Max, creditsObserved := 0 }

@[inherit_doc signerStakeState]
def signerStakeData : List UInt8 :=
  [2, 0, 0, 0] ++ [128, 213, 34, 0, 0, 0, 0, 0] ++ signerKey ++ signerKey ++
    List.replicate 48 0 ++ voterBytes ++ [0, 202, 154, 59, 0, 0, 0, 0] ++
    [188, 2, 0, 0, 0, 0, 0, 0] ++ List.replicate 8 255 ++ [0, 0, 0, 0, 0, 0, 208, 63] ++
    List.replicate 8 0 ++ List.replicate 4 0

/-- Kit on these two addresses and this account. -/
def signerKit : SolanaKit :=
  { walletKit with
    isAddress := fun address => address = signerAddress || address = signerStake
    decode := fun data => if data = signerStakeData then some signerStakeState else none }

/-- An RPC on the chain with this account. -/
def signerRpc : SolanaRpcClient :=
  rpcOf (Function.update (fun _ => none) signerStake (some
    { address := signerStake, lamports := 1002282880, data := signerStakeData
      owner := stakeProgramAddress }))

/-- Its Undelegate, with a fee. -/
def undelegateArgs (total : ℤ) : BaseSignArgs where
  transaction :=
    .undelegate
      { chain := { id := "solana-mainnet", chainId := none }, amount := 1000000000,
        account := some signerAddress }
      false none none (some signerStake)
  fee := .solanaFee 50000 100000 total
  nonce := .int 0

/-- The message that is built for it. -/
def undelegateMessage : TransactionMessage where
  feePayer := signerAddress
  blockhash := "EETubP5AKHgjPAhzPAFcb8BAY1hMH639CWCFTqi3hq1k"
  lastValidBlockHeight := 1
  computeUnitLimit := some 50000
  computeUnitPrice := some 100000
  instructions := [.deactivate signerStake signerAddress]

/-- The message in bytes: its header, addresses, block hash and instructions. -/
def undelegateBytes : List UInt8 :=
  [128, 1, 0, 3, 5, 215, 90, 152, 1, 130, 177, 10, 183, 213, 75, 254, 211, 201, 100, 7, 58, 14,
    225, 114, 243, 218, 166, 35, 37, 175, 2, 26, 104, 247, 7, 81, 26, 139, 18, 41, 158, 19, 28,
    227, 133, 58, 233, 43, 67, 142, 9, 208, 183, 245, 45, 165, 27, 254, 223, 169, 153, 210, 190,
    20, 32, 164, 41, 150, 169, 3, 6, 70, 111, 229, 33, 23, 50, 255, 236, 173, 186, 114, 195, 155,
    231, 188, 140, 229, 187, 197, 247, 18, 107, 44, 67, 155, 58, 64, 0, 0, 0, 6, 161, 216, 23,
    145, 55, 84, 42, 152, 52, 55, 189, 254, 42, 122, 178, 85, 127, 83, 92, 138, 120, 114, 43, 104,
    164, 157, 192, 0, 0, 0, 0, 6, 167, 213, 23, 24, 199, 116, 201, 40, 86, 99, 152, 105, 29, 94,
    182, 139, 94, 184, 163, 155, 75, 109, 92, 115, 85, 91, 33, 0, 0, 0, 0, 196, 154, 231, 118, 3,
    120, 32, 84, 241, 122, 157, 236, 234, 67, 180, 68, 235, 160, 237, 177, 44, 111, 29, 49, 198,
    224, 228, 168, 75, 240, 82, 235, 3, 2, 0, 5, 2, 80, 195, 0, 0, 2, 0, 9, 3, 160, 134, 1, 0, 0,
    0, 0, 0, 3, 3, 1, 4, 0, 4, 5, 0, 0, 0, 0]

@[inherit_doc undelegateBytes]
def undelegateText : String :=
  "gAEAAwXXWpgBgrEKt9VL/tPJZAc6DuFy89qmIyWvAhpo9wdRGosSKZ4THOOFOukrQ44J0Lf1LaUb/t+pmdK+FCCk"
    ++ "KZapAwZGb+UhFzL/7K26csOb57yM5bvF9xJrLEObOkAAAAAGodgXkTdUKpg0N73+KnqyVX9TXIp4citopJ3AAAAA"
    ++ "AAan1RcYx3TJKFZjmGkdXraLXrijm0ttXHNVWyEAAAAAxJrndgN4IFTxep3s6kO0ROug7bEsbx0xxuDkqEvwUusD"
    ++ "AgAFAlDDAAACAAkDoIYBAAAAAAADAwEEAAQFAAAAAA=="

/-- The signature of the message. -/
def undelegateSignature : List UInt8 :=
  [47, 118, 65, 162, 174, 21, 62, 82, 249, 192, 91, 133, 94, 58, 45, 144, 138, 182, 250, 149, 96,
    226, 134, 111, 20, 119, 74, 81, 211, 157, 70, 167, 209, 214, 115, 55, 54, 156, 162, 195, 23,
    71, 61, 152, 123, 149, 52, 14, 247, 99, 219, 69, 200, 6, 137, 38, 23, 113, 87, 84, 31, 186,
    247, 5]

@[inherit_doc undelegateSignature]
def undelegateSignatureText : String :=
  "L3ZBoq4VPlL5wFuFXjotkIq2+pVg4oZvFHdKUdOdRqfR1nM3NpyiwxdHPZh7lTQO92PbRcgGiSYXcVdUH7r3BQ=="

/-- The transaction before it is signed. -/
def undelegateUnsigned : KitTransaction where
  messageBytes := undelegateBytes
  signatures := ⟨[(signerAddress, none)], List.nodup_singleton _⟩

@[inherit_doc undelegateUnsigned]
def undelegateUnsignedWire : String :=
  "AQAAAAAAAAAAAAAAAAAAAAAAAAAAAAAAAAAAAAAAAAAAAAAAAAAAAAAAAAAAAAAAAAAAAAAAAAAAAAAAAAAAAACA"
    ++ "AQADBddamAGCsQq31Uv+08lkBzoO4XLz2qYjJa8CGmj3B1EaixIpnhMc44U66StDjgnQt/UtpRv+36mZ0r4UIKQp"
    ++ "lqkDBkZv5SEXMv/srbpyw5vnvIzlu8X3EmssQ5s6QAAAAAah2BeRN1QqmDQ3vf4qerJVf1NcinhyK2ikncAAAAAA"
    ++ "BqfVFxjHdMkoVmOYaR1etoteuKObS21cc1VbIQAAAADEmud2A3ggVPF6nezqQ7RE66DtsSxvHTHG4OSoS/BS6wMC"
    ++ "AAUCUMMAAAIACQOghgEAAAAAAAMDAQQABAUAAAAA"

/-- The transaction with its signature. -/
def undelegateSignedWire : String :=
  "AS92QaKuFT5S+cBbhV46LZCKtvqVYOKGbxR3SlHTnUan0dZzNzacosMXRz2Ye5U0Dvdj20XIBokmF3FXVB+69wWA"
    ++ "AQADBddamAGCsQq31Uv+08lkBzoO4XLz2qYjJa8CGmj3B1EaixIpnhMc44U66StDjgnQt/UtpRv+36mZ0r4UIKQp"
    ++ "lqkDBkZv5SEXMv/srbpyw5vnvIzlu8X3EmssQ5s6QAAAAAah2BeRN1QqmDQ3vf4qerJVf1NcinhyK2ikncAAAAAA"
    ++ "BqfVFxjHdMkoVmOYaR1etoteuKObS21cc1VbIQAAAADEmud2A3ggVPF6nezqQ7RE66DtsSxvHTHG4OSoS/BS6wMC"
    ++ "AAUCUMMAAAIACQOghgEAAAAAAAMDAQQABAUAAAAA"

/-- The signatures of that keypair: of this message, and no real one of any other. -/
def signerSignature (message : List UInt8) : List UInt8 :=
  if message = undelegateBytes then undelegateSignature else List.replicate 64 0

@[inherit_doc signerSignature]
def zeroSignatureText : String := String.ofList (List.replicate 86 'A' ++ ['=', '='])

/-- The signing part of Kit on that keypair and that message. -/
def signerSigningKit : SigningKit where
  compileTransaction := fun message =>
    if message = undelegateMessage then .ok undelegateUnsigned else .error (.foreign "no vector")
  getBase64EncodedWireTransaction := fun t =>
    if t = undelegateUnsigned then undelegateUnsignedWire
    else if t = undelegateUnsigned.withSignature signerAddress undelegateSignature then
      undelegateSignedWire
    else ""
  decodeTransaction := fun bytes =>
    if bytes = [1] ++ List.replicate 64 0 ++ undelegateBytes then .ok undelegateUnsigned
    else .error (.foreign "no vector")
  base16Encode := fun hex => if hex = signerSeedHex then signerSeed else []
  base64Encode := fun text =>
    if text = undelegateText then .ok undelegateBytes
    else if text = undelegateUnsignedWire then .ok ([1] ++ List.replicate 64 0 ++ undelegateBytes)
    else if text = undelegateSignatureText then .ok undelegateSignature
    else if text = zeroSignatureText then .ok (List.replicate 64 0)
    else .error (.foreign "no vector")
  base64Decode := fun bytes =>
    if bytes = undelegateBytes then undelegateText
    else if bytes = undelegateSignature then undelegateSignatureText
    else zeroSignatureText
  addressOf := fun _ => signerAddress
  signBytes := fun _ => signerSignature
  signTransaction := fun _ t =>
    if t.signatures.entries.map Prod.fst = [signerAddress] then
      .ok (t.withSignature signerAddress (signerSignature t.messageBytes))
    else .error (.foreign "no vector")
  getPublicKeyFromAddress := fun address =>
    if address = signerAddress then .ok signerKey else .error (.foreign "no vector")
  verifySignature := fun publicKey signature message =>
    publicKey = signerKey && signature = signerSignature message

theorem lawful_signerSigningKit : signerSigningKit.Lawful := by
  have hcompile : ∀ {message compiled}, signerSigningKit.compileTransaction message = .ok compiled →
      message = undelegateMessage ∧ compiled = undelegateUnsigned := by
    intro message compiled h
    by_cases hmessage : message = undelegateMessage
    · subst hmessage
      exact ⟨rfl, (Except.ok.inj h).symm⟩
    · simp [signerSigningKit, hmessage] at h
  have hdecode : ∀ {bytes t}, signerSigningKit.decodeTransaction bytes = .ok t →
      t = undelegateUnsigned := by
    intro bytes t h
    simp only [signerSigningKit] at h
    split at h
    · exact (Except.ok.inj h).symm
    · cases h
  refine ⟨fun h a => ?_, fun h => ?_, fun h h' _ => ?_, fun _ => ?_, fun _ message => ?_,
    fun _ => ⟨signerKey, ?_, fun message => ?_⟩, fun h => if_pos h⟩
  · obtain ⟨rfl, rfl⟩ := hcompile h
    simp [undelegateUnsigned, undelegateMessage, Instruction.signers]
  · obtain ⟨rfl, rfl⟩ := hcompile h
    decide +kernel
  · rw [hdecode h, hdecode h']
  · show isBlank signerAddress = false
    decide +kernel
  · show (signerSignature message).length = 64 ∧
      signerSigningKit.base64Decode (signerSignature message) ≠ "" ∧
      signerSigningKit.base64Encode (signerSigningKit.base64Decode (signerSignature message)) =
        .ok (signerSignature message)
    unfold signerSignature
    split <;> decide +kernel
  · rfl
  · simp [signerSigningKit]

/-- With the account it belongs to, the Undelegate is signed directly as it is externally. -/
theorem sign_undelegate :
    sign signerKit signerSigningKit signerRpc {}
      { undelegateArgs 10000 with privateKey := signerSeedHex } = .ok undelegateSignedWire :=
  have hseed : parseEd25519SeedHex signerSigningKit signerSeedHex = .ok signerSeed := by
    decide +kernel
  (sign_eq_ok_iff_prehashAndCompile lawful_signerSigningKit hseed).mpr
    ⟨Or.inl rfl, by decide +kernel⟩

/-! ## Compile is tamper-evident -/

section tamper

variable {kit : SolanaKit} {signer : SigningKit} {rpc : SolanaRpcClient}
  {config : SolanaSignServiceConfig} {args : BaseSignArgs} {result : PrehashResult}
  {account signature : String} {message : List UInt8}

/-- A signature text that verifies for one account and one message at most. -/
def OnlyFor (signer : SigningKit) (signature account : String) (message : List UInt8) : Prop :=
  ∀ sigBytes a publicKey m, signer.base64Encode signature = .ok sigBytes →
    signer.getPublicKeyFromAddress a = .ok publicKey →
    signer.verifySignature publicKey sigBytes m = true → a = account ∧ m = message

/-- **Compile is tamper-evident.** With a signature that is good only for what `prehash` returned,
`compile` accepts changed arguments iff it accepts those of `prehash` and nothing is changed that it
looks at but the wire text, which still decodes to the message; and it returns the same text. -/
theorem compile_eq_ok_iff_of_onlyFor (hsigner : signer.Lawful)
    (hprehash : prehash kit signer rpc config args = .ok result)
    (haccount : args.transaction.account = some account)
    (hmessage : result.signArgs.messageBytes = some message)
    (honly : OnlyFor signer signature account message) {changed : SolanaSignArgs} {text : String} :
    compile signer { signArgs := changed, signature } = .ok text ↔
      compile signer { signArgs := result.signArgs, signature } = .ok text ∧
      changed.transaction.account = some account ∧ changed.messageBytes = some message ∧
      ∃ w t, changed.wireTransaction = some w ∧ w ≠ "" ∧ decodeWireTransaction signer w = .ok t ∧
        t.messageBytes = message := by
  obtain ⟨authority, compiled, hauthority, -, hcut, rfl⟩ := prehash_eq_ok.mp hprehash
  obtain rfl := Option.some.inj (haccount.symm.trans hauthority)
  obtain rfl := Option.some.inj hmessage
  obtain ⟨hwire, hread, -⟩ := readsBack_of_unsignedOf hsigner hcut
  have hkeys := keys_of_unsignedOf hsigner hcut
  -- a decoded transaction with the message has the account as its one signer, too
  have hsame : ∀ w t, decodeWireTransaction signer w = .ok t →
      t.messageBytes = compiled.messageBytes → t.signatures.has account = true ∧
        ∀ sigBytes, t.withSignature account sigBytes = compiled.withSignature account sigBytes := by
    intro w t ht hbytes
    obtain ⟨bytes, -, ht⟩ := bind_eq_ok.mp ht
    obtain ⟨bytes', -, hcompiled⟩ := bind_eq_ok.mp hread
    have hkeys' : t.signatures.entries.map Prod.fst = [account] :=
      (hsigner.decoded ht hcompiled hbytes).trans hkeys
    obtain ⟨messageBytes, signatures⟩ := t
    obtain rfl : messageBytes = compiled.messageBytes := hbytes
    refine ⟨by simp [JsMap.has, hkeys'], fun sigBytes => ?_⟩
    refine congrArg (KitTransaction.mk _) (JsMap.ext ?_)
    rw [JsMap.entries_set_of_keys_eq hkeys', JsMap.entries_set_of_keys_eq hkeys]
  rw [compile_eq_ok, compile_eq_ok]
  constructor
  · rintro ⟨feePayer, unsigned, sigBytes, h, rfl⟩
    obtain ⟨publicKey, hkey, hverify⟩ := h.verifies
    obtain ⟨rfl, hbytes⟩ := honly _ _ _ _ h.signature.2.1 hkey hverify
    obtain ⟨w, hw, hw', hunsigned⟩ := h.wire
    refine ⟨⟨feePayer, compiled, sigBytes, ⟨⟨_, rfl, hwire, hread⟩, haccount, h.account_ne, rfl,
      h.signature, ⟨publicKey, hkey, hbytes ▸ hverify⟩, (hsame _ _ hread rfl).1⟩, ?_⟩, h.account,
      hbytes ▸ h.message, w, unsigned, hw, hw', hunsigned, hbytes⟩
    rw [(hsame w unsigned hunsigned hbytes).2]
  · rintro ⟨⟨feePayer, unsigned, sigBytes, h, rfl⟩, haccount', hmessage', w, t, hw, hw', ht,
      hbytes⟩
    obtain rfl := Option.some.inj (haccount.symm.trans h.account)
    obtain ⟨_, hread', -, hunsigned⟩ := h.wire
    obtain rfl := Option.some.inj hread'
    obtain rfl := Except.ok.inj (hread.symm.trans hunsigned)
    refine ⟨account, t, sigBytes, ⟨⟨w, hw, hw', ht⟩, haccount', h.account_ne, hbytes ▸ hmessage',
      h.signature, ?_, (hsame w t ht hbytes).1⟩, ?_⟩
    · rw [hbytes]
      exact h.verifies
    · rw [(hsame w t ht hbytes).2]

end tamper

/-- What `compile` is handed for the Undelegate, with a fee. -/
def undelegateSignArgs (total : ℤ) : SolanaSignArgs :=
  { undelegateArgs total with
    messageBytes := some undelegateBytes
    wireTransaction := some undelegateUnsignedWire }

/-- The signature of the Undelegate is good for nothing else. -/
theorem onlyFor_undelegate :
    OnlyFor signerSigningKit undelegateSignatureText signerAddress undelegateBytes := by
  intro sigBytes a publicKey m hbytes hkey hverify
  have hread : signerSigningKit.base64Encode undelegateSignatureText = .ok undelegateSignature := by
    decide +kernel
  obtain rfl := Except.ok.inj (hread.symm.trans hbytes)
  constructor
  · by_contra ha
    simp [signerSigningKit, ha] at hkey
  · by_contra hm
    have hsame : undelegateSignature = signerSignature m :=
      of_decide_eq_true ((Bool.and_eq_true_iff.mp hverify).2)
    rw [signerSignature, if_neg hm] at hsame
    exact absurd hsame (by decide)

/-- A fee changed after `prehash` does not change what `compile` returns, another account does. -/
theorem compile_undelegate_changed :
    compile signerSigningKit
        { signArgs := undelegateSignArgs 99999, signature := undelegateSignatureText } =
      .ok undelegateSignedWire ∧
    ∀ text, compile signerSigningKit
        { signArgs :=
            { undelegateSignArgs 10000 with
              toBaseSignArgs := (undelegateArgs 10000).withAccount wallet }
          signature := undelegateSignatureText } ≠ .ok text := by
  have hprehash : prehash signerKit signerSigningKit signerRpc {} (undelegateArgs 10000) =
      .ok { serializedTransaction := undelegateText, signArgs := undelegateSignArgs 10000 } := by
    decide +kernel
  constructor
  · exact (compile_eq_ok_iff_of_onlyFor lawful_signerSigningKit hprehash rfl rfl
      onlyFor_undelegate).mpr ⟨by decide +kernel, rfl, rfl, undelegateUnsignedWire,
        undelegateUnsigned, rfl, by decide +kernel, by decide +kernel, rfl⟩
  · intro text h
    have haccount := ((compile_eq_ok_iff_of_onlyFor lawful_signerSigningKit hprehash rfl rfl
      onlyFor_undelegate).mp h).2.1
    exact absurd haccount (by decide +kernel)

end GuardianStake.Solana
