import GuardianStake.Solana.FundingGate
import GuardianStake.Solana.SigningPaths

/-!
# The fee that is quoted, and the message it is for

`services/fee-service.ts`: `estimateFee` builds the message with a placeholder fee and without the
funding gate, asks the RPC for its fee and adds the priority fee.

* `buildUnsignedTx_eq_ok_iff_unchecked` — the gate and the total decide only whether a message is
  built, not which.
* `estimateFee_message` — **the fee is for the message that is signed**: with the fee quoted,
  signing on the unchanged chain compiles the message the RPC was asked about, and it does so
  whenever the account can pay.
-/

namespace GuardianStake.Solana

open Sdk

/-! ## The code -/

/-- Source: `services/fee-service.ts`, `STATIC_COMPUTE_UNITS` and `staticComputeUnits`. -/
def staticComputeUnits : TransactionType → Result ℤ
  | .delegate => .ok 200000
  | .undelegate => .ok 50000
  | .claimDelegate => .ok 50000
  | type =>
      .error (.validation .unsupportedOperation
        s!"Solana fee estimation does not support transaction type \"{type.toText}\".")

/-- Source: `services/fee-service.ts`, `requireAccount`. -/
def requireAccount (tx : Transaction) : Result String := do
  let account := tx.account.getD ""
  if isBlank account then
    throw (.validation .invalidAddress
      "transaction.account is required to estimate a Solana fee (fee payer).")
  return account

section code

variable (kit : SolanaKit) (signer : SigningKit) (rpc : SolanaRpcClient)
  (getFeeForMessage : String → Result (Option ℕ)) (config : SolanaSignServiceConfig)

/-- What `estimateFee` hands to the builder. -/
def feeDeps (authorityAddress : String) (computeUnitPrice : ℤ) : BuildTxDeps where
  rpc := rpc
  authorityAddress := authorityAddress
  seedScanMax := config.seedScanMax
  defaultComputeUnitPrice := some computeUnitPrice
  computeUnitPrice := some computeUnitPrice
  skipBalanceCheck := true

/-- Source: `services/fee-service.ts`, `estimateFee`; its config has the fields of the sign
service's, and `getFeeForMessage` is a call of the RPC client. -/
def estimateFee (tx : Transaction) : Result Fee := do
  assertSupportedTransactionType tx
  let authorityAddress ← requireAccount tx
  let computeUnits ← staticComputeUnits tx.type
  let computeUnitPrice := config.defaultComputeUnitPrice.getD defaultComputeUnitPrice
  let draftFee := Fee.solanaFee computeUnits computeUnitPrice 0
  let built ← buildUnsignedBytes kit signer (feeDeps rpc config authorityAddress computeUnitPrice)
    tx draftFee
  let feeFromRpc ← getFeeForMessage (signer.base64Decode built.messageBytes)
  match feeFromRpc with
  | none =>
      throw (.validation .invalidFee
        "getFeeForMessage returned null for the built staking message.")
  | some feeFromRpc =>
      let priorityFee := priorityFeeLamports computeUnits computeUnitPrice
      return .solanaFee computeUnits computeUnitPrice (feeFromRpc + priorityFee)

end code

/-! ## The funding gate decides only whether -/

section gate

variable {kit : SolanaKit} {deps deps' : BuildTxDeps} {tx : Transaction}
  {computeUnits computeUnitPrice total : ℤ} {built : BuildTxResult}

/-- An account can pay an amount on top of the stake of a Delegate and its rent; the other
transactions ask for nothing. -/
def CanPay (rpc : SolanaRpcClient) (account : String) (tx : Transaction) (amount : ℤ) : Prop :=
  tx.type = .delegate → ∃ rentExempt balance,
    rpc.getMinimumBalanceForRentExemption stakeAccountSpace = .ok rentExempt ∧
      rpc.getBalance account = .ok balance ∧ tx.amount + rentExempt + amount ≤ balance

/-- What is laid out for a Delegate has read the rent and the balance. -/
theorem amounts_of_draftDelegate {rpc : SolanaRpcClient} {authority : String}
    {seedScanMax : Option ℤ} {base : BaseTransaction} {isMaxAmount : Bool}
    {validator : Option ValidatorRef} {resource : Option String} {draft : DelegateDraft}
    (h : draftDelegate kit rpc authority seedScanMax base isMaxAmount validator resource =
      .ok draft) :
    ∃ rentExempt, rpc.getMinimumBalanceForRentExemption stakeAccountSpace = .ok rentExempt ∧
      rpc.getBalance authority = .ok draft.balance ∧ draft.lamports = base.amount + rentExempt := by
  unfold draftDelegate at h
  obtain ⟨_, -, h⟩ := bind_eq_ok.mp h
  obtain ⟨_, -, h⟩ := bind_eq_ok.mp h
  obtain ⟨-, h⟩ := guard_eq_ok.mp h
  obtain ⟨_, -, h⟩ := bind_eq_ok.mp h
  obtain ⟨_, -, h⟩ := bind_eq_ok.mp h
  obtain ⟨rentExempt, hrent, h⟩ := bind_eq_ok.mp h
  obtain ⟨_, -, h⟩ := bind_eq_ok.mp h
  obtain ⟨balance, hbalance, h⟩ := bind_eq_ok.mp h
  obtain ⟨-, h⟩ := guard_eq_ok.mp h
  obtain ⟨_, -, h⟩ := bind_eq_ok.mp h
  obtain ⟨_, -, h⟩ := bind_eq_ok.mp h
  obtain rfl := Except.ok.inj h
  exact ⟨rentExempt, hrent, hbalance, rfl⟩

/-- A draft is funded iff its balance covers what is asked for. -/
theorem assertFunded_eq_ok {draft : DelegateDraft} {amount : ℤ} :
    assertFunded draft amount = .ok () ↔ draft.lamports + amount ≤ draft.balance := by
  rw [← not_lt]
  by_cases hshort : (draft.balance : ℤ) < draft.lamports + amount
  · rw [assertFunded, if_pos hshort]
    simp [hshort]
  · rw [assertFunded, if_neg hshort]
    exact ⟨fun _ => hshort, fun _ => rfl⟩

/-- **The funding gate and the total decide only whether a message is built**: where they are looked
at, the same message is built as where they are not, if the account can pay. -/
theorem buildUnsignedTx_eq_ok_iff_unchecked (hrpc : deps.rpc = deps'.rpc)
    (hauthority : deps.authorityAddress = deps'.authorityAddress)
    (hscan : deps.seedScanMax = deps'.seedScanMax)
    (hprice : deps.computeUnitPrice = some computeUnitPrice)
    (hprice' : deps'.computeUnitPrice = some computeUnitPrice)
    (hcheck : deps.skipBalanceCheck = false) (hskip : deps'.skipBalanceCheck = true)
    {placeholder : ℤ} :
    buildUnsignedTx kit deps tx (.solanaFee computeUnits computeUnitPrice total) = .ok built ↔
      buildUnsignedTx kit deps' tx (.solanaFee computeUnits computeUnitPrice placeholder) =
        .ok built ∧
      CanPay deps.rpc deps.authorityAddress tx
        (feeComponent computeUnits computeUnitPrice total) := by
  have hchosen : ∀ fee, computeUnitPriceOf deps fee = computeUnitPrice := by
    intro fee
    rw [computeUnitPriceOf, hprice]
    rfl
  have hchosen' : ∀ fee, computeUnitPriceOf deps' fee = computeUnitPrice := by
    intro fee
    rw [computeUnitPriceOf, hprice']
    rfl
  let fee : SolanaFee := { computeUnits, computeUnitPrice := some computeUnitPrice, total }
  let fee' : SolanaFee :=
    { computeUnits, computeUnitPrice := some computeUnitPrice, total := placeholder }
  cases tx with
  | redelegate | claimRewards | vote => exact ⟨nofun, fun h => nomatch h.1⟩
  | undelegate base isMaxAmount validator resource stakeAccount =>
      change buildUndelegate kit deps stakeAccount fee = _ ↔
        buildUndelegate kit deps' stakeAccount fee' = _ ∧ _
      simp only [buildUndelegate, hchosen, hchosen', hrpc, hauthority]
      exact ⟨fun h => ⟨h, nofun⟩, fun h => h.1⟩
  | claimDelegate base validator index stakeAccount =>
      change buildClaimDelegate kit deps stakeAccount fee = _ ↔
        buildClaimDelegate kit deps' stakeAccount fee' = _ ∧ _
      simp only [buildClaimDelegate, hchosen, hchosen', hrpc, hauthority]
      exact ⟨fun h => ⟨h, nofun⟩, fun h => h.1⟩
  | delegate base isMaxAmount validator resource =>
      change buildDelegate kit deps base isMaxAmount validator resource fee = _ ↔
        buildDelegate kit deps' base isMaxAmount validator resource fee' = _ ∧ _
      rw [buildDelegate_eq, buildDelegate_eq, hchosen, hchosen', ← hrpc, ← hauthority, ← hscan,
        hcheck, hskip, bind_eq_ok, bind_eq_ok]
      constructor
      · rintro ⟨laid, hlaid, h⟩
        obtain ⟨_, hfunded, h⟩ := bind_eq_ok.mp h
        obtain ⟨rentExempt, hrent, hbalance, hlamports⟩ := amounts_of_draftDelegate hlaid
        have hle := assertFunded_eq_ok.mp hfunded
        rw [hlamports] at hle
        exact ⟨⟨laid, hlaid, h⟩, fun _ => ⟨rentExempt, laid.balance, hrent, hbalance, hle⟩⟩
      · rintro ⟨⟨laid, hlaid, h⟩, hpay⟩
        obtain ⟨rentExempt, hrent, hbalance, hlamports⟩ := amounts_of_draftDelegate hlaid
        obtain ⟨rentExempt', balance', hrent', hbalance', hle⟩ := hpay rfl
        obtain rfl := Except.ok.inj (hrent.symm.trans hrent')
        obtain rfl := Except.ok.inj (hbalance.symm.trans hbalance')
        refine ⟨laid, hlaid, bind_eq_ok.mpr ⟨(), assertFunded_eq_ok.mpr ?_, h⟩⟩
        rw [hlamports]
        exact hle

end gate

/-! ## The fee is for the message that is signed -/

section quote

variable {kit : SolanaKit} {signer : SigningKit} {rpc : SolanaRpcClient}
  {getFeeForMessage : String → Result (Option ℕ)} {config : SolanaSignServiceConfig}
  {tx : Transaction} {fee : Fee}

/-- The priority fee, for any price: that of a price that is not positive is zero. -/
theorem priorityFeeLamports_eq_ceil_max {computeUnits : ℤ} (computeUnitPrice : ℤ)
    (hunits : 0 < computeUnits) :
    priorityFeeLamports computeUnits computeUnitPrice =
      ⌈((computeUnits * max computeUnitPrice 0 : ℤ) : ℚ) / 1000000⌉ := by
  rcases lt_or_ge 0 computeUnitPrice with hprice | hprice
  · rw [max_eq_left hprice.le, priorityFeeLamports_eq_ceil hunits hprice]
  · rw [max_eq_right hprice, priorityFeeLamports, if_pos (Or.inr hprice)]
    simp

/-- The account that is required is the transaction's. -/
theorem requireAccount_eq_ok {account : String} (h : requireAccount tx = .ok account) :
    tx.account = some account := by
  unfold requireAccount at h
  obtain ⟨hblank, h⟩ := guard_eq_ok.mp h
  obtain rfl := Except.ok.inj h
  cases htx : tx.account with
  | none => exact absurd (by rw [htx]; decide) hblank
  | some account => rfl

/-- The compute units quoted are positive. -/
theorem staticComputeUnits_pos {type : TransactionType} {computeUnits : ℤ}
    (h : staticComputeUnits type = .ok computeUnits) : 0 < computeUnits := by
  cases type with
  | delegate | undelegate | claimDelegate =>
      obtain rfl := Except.ok.inj h
      norm_num
  | redelegate | claimRewards | vote => cases h

/-- **What a quote is made of**: the message of a draft, what the RPC asks for it, and the fee of the
compute units. -/
theorem estimateFee_eq_ok
    (h : estimateFee kit signer rpc getFeeForMessage config tx = .ok fee) :
    ∃ account computeUnits built compiled baseFee,
      tx.account = some account ∧ staticComputeUnits tx.type = .ok computeUnits ∧
      buildUnsignedTx kit (feeDeps rpc config account
          (config.defaultComputeUnitPrice.getD defaultComputeUnitPrice)) tx
        (.solanaFee computeUnits (config.defaultComputeUnitPrice.getD defaultComputeUnitPrice) 0) =
          .ok built ∧
      signer.compileTransaction built.message = .ok compiled ∧
      getFeeForMessage (signer.base64Decode compiled.messageBytes) = .ok (some baseFee) ∧
      fee = .solanaFee computeUnits (config.defaultComputeUnitPrice.getD defaultComputeUnitPrice)
        (baseFee + priorityFeeLamports computeUnits
          (config.defaultComputeUnitPrice.getD defaultComputeUnitPrice)) := by
  unfold estimateFee at h
  obtain ⟨_, -, h⟩ := bind_eq_ok.mp h
  obtain ⟨account, haccount, h⟩ := bind_eq_ok.mp h
  obtain ⟨computeUnits, hunits, h⟩ := bind_eq_ok.mp h
  obtain ⟨bytes, hbytes, h⟩ := bind_eq_ok.mp h
  obtain ⟨built, hbuilt, hbytes⟩ := bind_eq_ok.mp hbytes
  obtain ⟨compiled, hcompiled, hbytes⟩ := bind_eq_ok.mp hbytes
  obtain rfl := Except.ok.inj hbytes
  obtain ⟨answer, hanswer, h⟩ := bind_eq_ok.mp h
  cases answer with
  | none => cases h
  | some baseFee =>
      exact ⟨account, computeUnits, built, compiled, baseFee, requireAccount_eq_ok haccount, hunits,
        hbuilt, hcompiled, hanswer, (Except.ok.inj h).symm⟩

/-- **The fee is for the message that is signed.** A quoted fee is what the RPC asks for a message,
plus the fee of its compute units at its price, rounded up. Signing with that fee on the unchanged
chain compiles this message, and it compiles unless the account of a Delegate cannot pay. -/
theorem estimateFee_message (h : estimateFee kit signer rpc getFeeForMessage config tx = .ok fee) :
    ∃ account computeUnits computeUnitPrice compiled baseFee,
      tx.account = some account ∧ staticComputeUnits tx.type = .ok computeUnits ∧
      config.defaultComputeUnitPrice.getD defaultComputeUnitPrice = computeUnitPrice ∧
      getFeeForMessage (signer.base64Decode compiled.messageBytes) = .ok (some baseFee) ∧
      fee = .solanaFee computeUnits computeUnitPrice
        (baseFee + ⌈((computeUnits * max computeUnitPrice 0 : ℤ) : ℚ) / 1000000⌉) ∧
      ∀ nonce t,
        unsignedOf kit signer rpc config { transaction := tx, fee, nonce } account = .ok t ↔
          t = compiled ∧ CanPay rpc account tx (feeComponent computeUnits computeUnitPrice
            (baseFee + ⌈((computeUnits * max computeUnitPrice 0 : ℤ) : ℚ) / 1000000⌉)) := by
  obtain ⟨account, computeUnits, built, compiled, baseFee, haccount, hunits, hbuilt, hcompiled,
    hanswer, rfl⟩ := estimateFee_eq_ok h
  generalize config.defaultComputeUnitPrice.getD defaultComputeUnitPrice = price at hbuilt ⊢
  have hceil := priorityFeeLamports_eq_ceil_max price (staticComputeUnits_pos hunits)
  refine ⟨account, computeUnits, price, compiled, baseFee, haccount, hunits, rfl, hanswer,
    by rw [← hceil], fun nonce t => ?_⟩
  rw [← hceil]
  generalize (baseFee : ℤ) + priorityFeeLamports computeUnits price = total
  let signFee : SolanaFee := { computeUnits, computeUnitPrice := some price, total }
  -- both builders choose the quoted price, so they differ in the gate and the total only
  have hgate : ∀ message, buildUnsignedTx kit (signDeps rpc config account signFee) tx
      (.solanaFee computeUnits price total) = .ok message ↔
      buildUnsignedTx kit (feeDeps rpc config account price) tx
        (.solanaFee computeUnits price 0) = .ok message ∧
      CanPay rpc account tx (feeComponent computeUnits price total) := fun message =>
    @buildUnsignedTx_eq_ok_iff_unchecked kit (signDeps rpc config account signFee)
      (feeDeps rpc config account price) tx computeUnits price total message rfl rfl rfl rfl
      rfl rfl rfl 0
  change (buildUnsignedTx kit (signDeps rpc config account signFee) tx
    (.solanaFee computeUnits price total) >>= fun built =>
      signer.compileTransaction built.message) = .ok t ↔ _
  rw [bind_eq_ok]
  constructor
  · rintro ⟨message, hmessage, ht⟩
    obtain ⟨hdraft, hpay⟩ := (hgate message).mp hmessage
    obtain rfl := Except.ok.inj (hbuilt.symm.trans hdraft)
    exact ⟨Except.ok.inj (ht.symm.trans hcompiled), hpay⟩
  · rintro ⟨rfl, hpay⟩
    exact ⟨built, (hgate built).mpr ⟨hbuilt, hpay⟩, hcompiled⟩

end quote

/-! ### A Delegate, quoted -/

/-- The message of the Delegate of one SOL in bytes: its header, addresses, block hash and
instructions. -/
def oneSolBytes : List UInt8 :=
  [128, 1, 0, 8, 10, 6, 155, 136, 87, 254, 171, 129, 132, 251, 104, 127, 99, 70, 24, 192, 53,
    218, 196, 57, 220, 26, 235, 59, 85, 152, 160, 240, 0, 0, 0, 0, 1, 44, 5, 0, 191, 203, 146,
    109, 88, 222, 159, 54, 116, 118, 128, 217, 174, 229, 78, 201, 163, 29, 62, 173, 172, 135, 5,
    155, 165, 53, 219, 119, 184, 0, 0, 0, 0, 0, 0, 0, 0, 0, 0, 0, 0, 0, 0, 0, 0, 0, 0, 0, 0, 0,
    0, 0, 0, 0, 0, 0, 0, 0, 0, 0, 0, 173, 35, 118, 109, 170, 79, 48, 149, 122, 78, 144, 205, 248,
    38, 143, 97, 248, 31, 15, 0, 232, 57, 201, 173, 110, 250, 0, 159, 68, 236, 159, 166, 3, 6,
    70, 111, 229, 33, 23, 50, 255, 236, 173, 186, 114, 195, 155, 231, 188, 140, 229, 187, 197,
    247, 18, 107, 44, 67, 155, 58, 64, 0, 0, 0, 6, 161, 216, 23, 145, 55, 84, 42, 152, 52, 55,
    189, 254, 42, 122, 178, 85, 127, 83, 92, 138, 120, 114, 43, 104, 164, 157, 192, 0, 0, 0, 0,
    6, 161, 216, 23, 165, 2, 5, 11, 104, 7, 145, 230, 206, 109, 184, 142, 30, 91, 113, 80, 246,
    31, 198, 121, 10, 78, 180, 209, 0, 0, 0, 0, 6, 167, 213, 23, 24, 199, 116, 201, 40, 86, 99,
    152, 105, 29, 94, 182, 139, 94, 184, 163, 155, 75, 109, 92, 115, 85, 91, 33, 0, 0, 0, 0, 6,
    167, 213, 23, 25, 44, 92, 81, 33, 140, 201, 76, 61, 74, 241, 127, 88, 218, 238, 8, 155, 161,
    253, 68, 227, 219, 217, 138, 0, 0, 0, 0, 6, 167, 213, 23, 25, 53, 132, 208, 254, 237, 155,
    179, 67, 29, 19, 32, 107, 229, 68, 40, 27, 87, 184, 86, 108, 197, 55, 95, 244, 0, 0, 0, 196,
    154, 231, 118, 3, 120, 32, 84, 241, 122, 157, 236, 234, 67, 180, 68, 235, 160, 237, 177, 44,
    111, 29, 49, 198, 224, 228, 168, 75, 240, 82, 235, 5, 4, 0, 5, 2, 64, 13, 3, 0, 4, 0, 9, 3,
    160, 134, 1, 0, 0, 0, 0, 0, 2, 2, 0, 1, 93, 3, 0, 0, 0, 6, 155, 136, 87, 254, 171, 129, 132,
    251, 104, 127, 99, 70, 24, 192, 53, 218, 196, 57, 220, 26, 235, 59, 85, 152, 160, 240, 0, 0,
    0, 0, 1, 1, 0, 0, 0, 0, 0, 0, 0, 48, 128, 159, 189, 59, 0, 0, 0, 0, 200, 0, 0, 0, 0, 0, 0, 0,
    6, 161, 216, 23, 145, 55, 84, 42, 152, 52, 55, 189, 254, 42, 122, 178, 85, 127, 83, 92, 138,
    120, 114, 43, 104, 164, 157, 192, 0, 0, 0, 0, 5, 4, 1, 8, 0, 0, 4, 9, 0, 0, 0, 5, 6, 1, 3, 7,
    9, 6, 0, 4, 2, 0, 0, 0, 0]

@[inherit_doc oneSolBytes]
def oneSolText : String :=
  "gAEACAoGm4hX/quBhPtof2NGGMA12sQ53BrrO1WYoPAAAAAAASwFAL/Lkm1Y3p82dHaA2a7lTsmjHT6trIcFm6U123"
    ++ "e4AAAAAAAAAAAAAAAAAAAAAAAAAAAAAAAAAAAAAAAAAACtI3Ztqk8wlXpOkM34Jo9h+B8PAOg5ya1u+gCfROyfpgMG"
    ++ "Rm/lIRcy/+ytunLDm+e8jOW7xfcSayxDmzpAAAAABqHYF5E3VCqYNDe9/ip6slV/U1yKeHIraKSdwAAAAAAGodgXpQ"
    ++ "IFC2gHkebObbiOHltxUPYfxnkKTrTRAAAAAAan1RcYx3TJKFZjmGkdXraLXrijm0ttXHNVWyEAAAAABqfVFxksXFEh"
    ++ "jMlMPUrxf1ja7gibof1E49vZigAAAAAGp9UXGTWE0P7tm7NDHRMga+VEKBtXuFZsxTdf9AAAAMSa53YDeCBU8Xqd7O"
    ++ "pDtETroO2xLG8dMcbg5KhL8FLrBQQABQJADQMABAAJA6CGAQAAAAAAAgIAAV0DAAAABpuIV/6rgYT7aH9jRhjANdrE"
    ++ "Odwa6ztVmKDwAAAAAAEBAAAAAAAAADCAn707AAAAAMgAAAAAAAAABqHYF5E3VCqYNDe9/ip6slV/U1yKeHIraKSdwA"
    ++ "AAAAAFBAEIAAAECQAAAAUGAQMHCQYABAIAAAAA"

/-- The transaction before it is signed. -/
def oneSolUnsigned : KitTransaction where
  messageBytes := oneSolBytes
  signatures := ⟨[(wallet, none)], List.nodup_singleton _⟩

/-- The signing part of Kit on that message. -/
def oneSolSigningKit : SigningKit :=
  { signerSigningKit with
    compileTransaction := fun message =>
      if message = (delegateResult (some 200000) (some 100000)).message then .ok oneSolUnsigned
      else .error (.foreign "no vector")
    base64Decode := fun bytes => if bytes = oneSolBytes then oneSolText else "" }

/-- A node that asks 5000 lamports for that message. -/
def oneSolFeeForMessage (message : String) : Result (Option ℕ) :=
  .ok (if message = oneSolText then some 5000 else none)

/-- The Delegate, with the fee it is quoted. -/
def oneSolArgs : BaseSignArgs where
  transaction := .delegate oneSol false oneSolValidator none
  fee := .solanaFee 200000 100000 25000
  nonce := .int 0

/-- The fee quoted for the Delegate is for the message that is signed with it, if the wallet has the
lamports; with one less it is quoted and not signed. -/
theorem estimateFee_oneSol :
    estimateFee delegateKit oneSolSigningKit (delegateDeps 1002312880).rpc oneSolFeeForMessage {}
        oneSolArgs.transaction = .ok oneSolArgs.fee ∧
      (∀ t, unsignedOf delegateKit oneSolSigningKit (delegateDeps 1002312880).rpc {} oneSolArgs
        wallet = .ok t ↔ t = oneSolUnsigned) ∧
      estimateFee delegateKit oneSolSigningKit (delegateDeps 1002312879).rpc oneSolFeeForMessage {}
        oneSolArgs.transaction = .ok oneSolArgs.fee ∧
      ∀ t, unsignedOf delegateKit oneSolSigningKit (delegateDeps 1002312879).rpc {} oneSolArgs
        wallet ≠ .ok t := by
  have hquote : estimateFee delegateKit oneSolSigningKit (delegateDeps 1002312880).rpc
      oneSolFeeForMessage {} oneSolArgs.transaction = .ok oneSolArgs.fee := by
    decide +kernel
  have hshort : estimateFee delegateKit oneSolSigningKit (delegateDeps 1002312879).rpc
      oneSolFeeForMessage {} oneSolArgs.transaction = .ok oneSolArgs.fee := by
    decide +kernel
  have hcompiled : unsignedOf delegateKit oneSolSigningKit (delegateDeps 1002312880).rpc {}
      oneSolArgs wallet = .ok oneSolUnsigned := by
    decide +kernel
  refine ⟨hquote, ?_, hshort, ?_⟩
  · obtain ⟨account, _, _, compiled, _, haccount, -, -, -, -, hall⟩ := estimateFee_message hquote
    obtain rfl : wallet = account := Option.some.inj haccount
    obtain ⟨rfl, hpay⟩ := (hall (.int 0) oneSolUnsigned).mp hcompiled
    exact fun t => (hall (.int 0) t).trans ⟨fun h => h.1, fun h => ⟨h, hpay⟩⟩
  · intro t ht
    obtain ⟨account, units, price, compiled, baseFee, haccount, -, -, -, hfee, hall⟩ :=
      estimateFee_message hshort
    obtain rfl : wallet = account := Option.some.inj haccount
    obtain ⟨-, hpay⟩ := (hall (.int 0) t).mp ht
    obtain ⟨rentExempt, balance, hrent, hbalance, hle⟩ := hpay rfl
    obtain rfl := Except.ok.inj hrent
    obtain rfl := Except.ok.inj hbalance
    obtain ⟨rfl, rfl, htotal⟩ := Fee.solanaFee.inj hfee
    rw [← htotal] at hle
    exact absurd hle (by decide +kernel)

end GuardianStake.Solana
