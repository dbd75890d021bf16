import GuardianStake.Solana.SeedScan
import GuardianStake.Solana.StakeAccount

/-!
# Building Solana transactions

`tx/validations.ts` and `tx/tx-builder.ts`: the checks of the transaction, the state gates on the
stake account, and the message that is compiled. A `BuildTxResult` holds the message itself; its
bytes are the business of `@solana/kit`.

* `buildDelegate_eq` — a Delegate, cut at its funding gate.
* `assertView_eq_ok`, `loadAndAssertStakeAccount_eq_ok` — what the state gates let through.
* `passesClaimGates_iff` — what those of a ClaimDelegate come down to for a stake account.
* `buildClaimDelegate_eq_ok` — what a built ClaimDelegate has passed, and what it withdraws.
-/

namespace GuardianStake.Solana

open Sdk

/-! ## Validations -/

/-- Source: `tx/validations.ts`, `assertSupportedTransactionType`. -/
def assertSupportedTransactionType (tx : Transaction) : Result Unit :=
  match tx.type with
  | .delegate | .undelegate | .claimDelegate => .ok ()
  | _ =>
      .error (.signing .unsupportedTransactionType
        s!"Solana does not support transaction type \"{tx.type.toText}\" in v1.")

/-- Source: `tx/validations.ts`, `assertDelegate`; the validator it finds. -/
def assertDelegate (base : BaseTransaction) (isMaxAmount : Bool)
    (validator : Option ValidatorRef) (resource : Option String) : Result ValidatorRef := do
  if isBlank (base.account.getD "") then
    throw (.validation .invalidAddress
      "Delegate requires transaction.account (wallet / authority).")
  if isMaxAmount then
    throw (.validation .invalidAmount
      ("Solana does not support isMaxAmount; pass an exact lamport amount "
        ++ "(query getBalances for max freeable)."))
  if base.amount ≤ 0 then
    throw (.validation .invalidAmount "Delegate amount must be greater than zero.")
  assertValidator (.delegate base isMaxAmount validator resource)

/-- Source: `tx/validations.ts`, `assertStakeAccount`; the stake account it asserts. -/
def assertStakeAccount (kit : SolanaKit) (type : TransactionType) (stakeAccount : Option String) :
    Result String := do
  let stakeAccount := stakeAccount.getD ""
  if isBlank stakeAccount then
    throw (.validation .invalidAddress
      s!"{type.toText} requires stakeAccount (base58 stake account pubkey).")
  if !kit.isAddress stakeAccount then
    throw (.validation .invalidAddress s!"Invalid stakeAccount address: \"{stakeAccount}\".")
  return stakeAccount

/-- Source: `tx/validations.ts`, `assertAuthorityAddress`. -/
def assertAuthorityAddress (kit : SolanaKit) (authorityAddress : String) : Result Unit := do
  if isBlank authorityAddress then
    throw (.validation .invalidAddress "authorityAddress is required.")
  if !kit.isAddress authorityAddress then
    throw (.validation .invalidAddress s!"Invalid authority address: \"{authorityAddress}\".")

/-! ## The message -/

/-- The program instructions the builder makes. -/
inductive Instruction
  | createAccountWithSeed (payer newAccount base seed : String) (amount : ℤ) (space : ℕ)
      (programAddress : String)
  | initializeChecked (stake stakeAuthority withdrawAuthority : String)
  | delegateStake (stake vote unused stakeAuthority : String)
  | deactivate (stake stakeAuthority : String)
  | withdraw (stake recipient withdrawAuthority : String) (lamports : ℕ)
  deriving DecidableEq, Repr

/-- The message that is compiled, with the compute budget instructions it carries. -/
structure TransactionMessage where
  feePayer : String
  blockhash : String
  lastValidBlockHeight : ℕ
  computeUnitLimit : Option ℤ
  computeUnitPrice : Option ℤ
  instructions : List Instruction
  deriving DecidableEq, Repr

/-- Source: `tx/solana-types.ts`, `BuildTxResult`. -/
structure BuildTxResult where
  message : TransactionMessage
  feePayer : String
  recentBlockhash : String
  deriving DecidableEq, Repr

/-- Source: `tx/solana-types.ts`, `BuildTxDeps`, with the fields of its config. -/
structure BuildTxDeps where
  rpc : SolanaRpcClient
  authorityAddress : String
  seedScanMax : Option ℤ := none
  defaultComputeUnitPrice : Option ℤ := none
  computeUnitPrice : Option ℤ := none
  skipBalanceCheck : Bool := false

/-- Source: `entity/fee-types.ts`, `SolanaFee`; the builder allows for a price left out. -/
structure SolanaFee where
  computeUnits : ℤ
  computeUnitPrice : Option ℤ
  total : ℤ
  deriving DecidableEq, Repr

/-- Source: `tx/tx-builder.ts`, `assertSolanaFee`; the fee it asserts. -/
def assertSolanaFee (fee : Fee) : Result SolanaFee :=
  match fee with
  | .solanaFee computeUnits computeUnitPrice total =>
      .ok { computeUnits, computeUnitPrice := some computeUnitPrice, total }
  | fee =>
      .error (.signing .invalidFeeType
        s!"Solana buildUnsignedTx requires a SolanaFee, got \"{fee.typeText}\".")

/-- The `cuLimit` of `buildMessage`. -/
def computeUnitLimitOf (computeUnits : ℤ) : Result (Option ℤ) :=
  if 0 < computeUnits then
    match toNumber computeUnits with
    | .int cu =>
        if (Number.int cu).isSafeInteger ∧ 0 < cu then .ok (some cu)
        else
          .error (.validation .invalidFee
            "SolanaFee.computeUnits must fit a positive safe integer.")
    | .other _ =>
        .error (.validation .invalidFee
          "SolanaFee.computeUnits must fit a positive safe integer.")
  else .ok none

/-- Source: `tx/tx-builder.ts`, `buildMessage`. -/
def buildMessage (authority : String) (latest : LatestBlockhash) (instructions : List Instruction)
    (computeUnits computeUnitPrice : ℤ) : Result BuildTxResult := do
  let cuLimit ← computeUnitLimitOf computeUnits
  return {
    message :=
      { feePayer := authority
        blockhash := latest.blockhash
        lastValidBlockHeight := latest.lastValidBlockHeight
        computeUnitLimit := cuLimit
        computeUnitPrice := if 0 < computeUnitPrice then some computeUnitPrice else none
        instructions }
    feePayer := authority
    recentBlockhash := latest.blockhash }

/-! ## The state gates -/

/-- The `role` of `loadAndAssertStakeAccount`. -/
inductive AuthorityRole
  | staker
  | withdrawer
  deriving DecidableEq, Repr

/-- The role as the source spells it. -/
def AuthorityRole.toText : AuthorityRole → String
  | .staker => "staker"
  | .withdrawer => "withdrawer"

/-- The `opts` of `loadAndAssertStakeAccount`. -/
structure StakeGateOpts where
  rejectActiveStake : Bool := false
  rejectLockup : Bool := false
  rejectNotDelegatedActive : Bool := false
  deriving DecidableEq, Repr

/-- The lockup gate. -/
def assertUnlocked (rpc : SolanaRpcClient) (stakeAccount : String) (lockup : StakeLockup) :
    Result Unit := do
  let clock ← rpc.getClock
  if isLockupInForce lockup clock then
    throw (.validation .unsupportedOperation
      (s!"Stake account \"{stakeAccount}\" has lockup in force until "
        ++ s!"unixTimestamp={lockup.unixTimestamp} / epoch={lockup.epoch}. "
        ++ "Custodian co-sign is not supported in v1."))

/-- The gates on a decoded account. -/
def assertView (rpc : SolanaRpcClient) (stakeAccount authorityAddress : String)
    (role : AuthorityRole) (opts : StakeGateOpts) (view : StakeAccountView) : Result Unit := do
  let expected := if role = .staker then view.staker else view.withdrawer
  if expected ≠ none ∧ expected ≠ some authorityAddress then
    let expectedText := expected.getD ""
    throw (.validation .invalidAddress
      (s!"Authority does not match stake account {role.toText} "
        ++ s!"(expected {expectedText}, got {authorityAddress})."))
  if opts.rejectActiveStake = true ∧ view.kind = .stake ∧ view.deactivationEpoch = u64Max then
    throw (.validation .unsupportedOperation
      (s!"Stake account \"{stakeAccount}\" is still active (never deactivated). "
        ++ "Undelegate and wait for cooldown before ClaimDelegate."))
  if opts.rejectNotDelegatedActive = true ∧ view.kind ≠ .stake then
    throw (.validation .unsupportedOperation
      (s!"Stake account \"{stakeAccount}\" is not a delegated Stake state "
        ++ s!"({view.kind.toText}); nothing to deactivate."))
  if opts.rejectNotDelegatedActive = true ∧ view.deactivationEpoch ≠ u64Max then
    throw (.validation .unsupportedOperation
      (s!"Stake account \"{stakeAccount}\" is already deactivating or inactive "
        ++ s!"(deactivationEpoch={view.deactivationEpoch}); Deactivate is a no-op / rejected."))
  match view.lockup with
  | none => return ()
  | some lockup => if opts.rejectLockup then assertUnlocked rpc stakeAccount lockup else return ()

/-- Source: `tx/tx-builder.ts`, `loadAndAssertStakeAccount`. -/
def loadAndAssertStakeAccount (kit : SolanaKit) (rpc : SolanaRpcClient)
    (stakeAccount authorityAddress : String) (role : AuthorityRole) (opts : StakeGateOpts) :
    Result SolanaAccountInfo := do
  let accounts ← rpc.getMultipleAccounts [stakeAccount]
  match accounts.getD 0 none with
  | none =>
      throw (.validation .invalidAddress s!"Stake account not found: \"{stakeAccount}\".")
  | some account => do
      if account.owner ≠ stakeProgramAddress then
        throw (.validation .invalidAddress
          (s!"Account \"{stakeAccount}\" is not owned by the stake program "
            ++ s!"(owner={account.owner})."))
      match decodeStakeAccount kit account.data with
      | none => return account
      | some view => do
          assertView rpc stakeAccount authorityAddress role opts view
          return account

/-! ## The builders -/

/-- Source: `state/constants.ts`, `STAKE_ACCOUNT_SPACE`. -/
def stakeAccountSpace : ℕ := 200

/-- Source: `state/constants.ts`, `STAKE_CONFIG_ADDRESS`. -/
def stakeConfigAddress : String := "StakeConfig11111111111111111111111111111111"

/-- Source: `tx/tx-builder.ts`, `DELEGATE_BASE_FEE_CUSHION_LAMPORTS`. -/
def delegateBaseFeeCushionLamports : ℤ := 10000

/-- Source: `state/constants.ts`, `priorityFeeLamports`. -/
def priorityFeeLamports (computeUnits computeUnitPrice : ℤ) : ℤ :=
  if computeUnits ≤ 0 ∨ computeUnitPrice ≤ 0 then 0
  else (computeUnits * computeUnitPrice + 1000000 - 1).tdiv 1000000

/-- Source: `state/constants.ts`, `DEFAULT_COMPUTE_UNIT_PRICE`. -/
def defaultComputeUnitPrice : ℤ := 100000

/-- The `computeUnitPrice` of the builders: `deps`, then `fee`, then `config`, then the default. -/
def computeUnitPriceOf (deps : BuildTxDeps) (fee : SolanaFee) : ℤ :=
  ((deps.computeUnitPrice.or fee.computeUnitPrice).or deps.defaultComputeUnitPrice).getD
    defaultComputeUnitPrice

section builders

variable (kit : SolanaKit) (deps : BuildTxDeps)

/-- Source: `tx/tx-builder.ts`, `buildDelegate`. -/
def buildDelegate (base : BaseTransaction) (isMaxAmount : Bool) (validator : Option ValidatorRef)
    (resource : Option String) (fee : SolanaFee) : Result BuildTxResult := do
  let validator ← assertDelegate base isMaxAmount validator resource
  assertAuthorityAddress kit deps.authorityAddress
  let authority := deps.authorityAddress
  if base.account.getD "" ≠ "" ∧ base.account ≠ some authority then
    throw (.validation .invalidAddress
      "transaction.account must match the fee-payer authority for Solana staking.")
  let vote ← kit.address validator.address
  let minDelegation ← deps.rpc.getStakeMinimumDelegation
  let rentExempt ← deps.rpc.getMinimumBalanceForRentExemption stakeAccountSpace
  let latest ← deps.rpc.getLatestBlockhash
  let balance ← deps.rpc.getBalance authority
  if base.amount < minDelegation then
    throw (.validation .invalidAmount
      (s!"Delegate amount {base.amount} is below stake minimum delegation "
        ++ s!"{minDelegation}."))
  let free ← findNextFreeSeed kit deps.rpc authority (deps.seedScanMax.getD defaultSeedScanMax)
  let stake ← kit.address free.stakeAddress
  let lamports := base.amount + rentExempt
  let computeUnitPrice := computeUnitPriceOf deps fee
  if !deps.skipBalanceCheck then
    let minFeeFromComponents :=
      priorityFeeLamports fee.computeUnits computeUnitPrice + delegateBaseFeeCushionLamports
    let feeComponent :=
      if minFeeFromComponents < fee.total then fee.total else minFeeFromComponents
    let required := lamports + feeComponent
    if balance < required then
      throw (.validation .invalidAmount
        (s!"Insufficient balance to fund stake: need ~{required} lamports "
          ++ s!"(amount + rent + fee), have {balance}."))
  buildMessage authority latest
    [.createAccountWithSeed authority stake authority free.seed lamports stakeAccountSpace
        stakeProgramAddress,
      .initializeChecked stake authority authority,
      .delegateStake stake vote stakeConfigAddress authority]
    fee.computeUnits computeUnitPrice

/-- Source: `tx/tx-builder.ts`, `buildUndelegate`. -/
def buildUndelegate (stakeAccount : Option String) (fee : SolanaFee) : Result BuildTxResult := do
  let stake ← assertStakeAccount kit .undelegate stakeAccount
  assertAuthorityAddress kit deps.authorityAddress
  let authority := deps.authorityAddress
  let _ ← loadAndAssertStakeAccount kit deps.rpc stake authority .staker
    { rejectNotDelegatedActive := true }
  let latest ← deps.rpc.getLatestBlockhash
  buildMessage authority latest [.deactivate stake authority] fee.computeUnits
    (computeUnitPriceOf deps fee)

/-- The `opts` of `buildClaimDelegate`. -/
def claimGates : StakeGateOpts := { rejectActiveStake := true, rejectLockup := true }

/-- Source: `tx/tx-builder.ts`, `buildClaimDelegate`. -/
def buildClaimDelegate (stakeAccount : Option String) (fee : SolanaFee) : Result BuildTxResult := do
  let stake ← assertStakeAccount kit .claimDelegate stakeAccount
  assertAuthorityAddress kit deps.authorityAddress
  let authority := deps.authorityAddress
  let account ← loadAndAssertStakeAccount kit deps.rpc stake authority .withdrawer claimGates
  let latest ← deps.rpc.getLatestBlockhash
  if account.lamports ≤ 0 then
    throw (.validation .invalidAmount s!"Stake account \"{stake}\" has no lamports to withdraw.")
  buildMessage authority latest [.withdraw stake authority authority account.lamports]
    fee.computeUnits (computeUnitPriceOf deps fee)

/-- Source: `tx/tx-builder.ts`, `buildUnsignedTx`. -/
def buildUnsignedTx (tx : Transaction) (fee : Fee) : Result BuildTxResult := do
  let fee ← assertSolanaFee fee
  assertSupportedTransactionType tx
  match tx with
  | .delegate base isMaxAmount validator resource =>
      buildDelegate kit deps base isMaxAmount validator resource fee
  | .undelegate _ _ _ _ stakeAccount => buildUndelegate kit deps stakeAccount fee
  | .claimDelegate _ _ _ stakeAccount => buildClaimDelegate kit deps stakeAccount fee
  | tx =>
      .error (.signing .unsupportedTransactionType
        s!"Solana does not support transaction type \"{tx.type.toText}\".")

end builders

/-! ## A Delegate, cut at its funding gate -/

/-- What `buildDelegate` has read and laid out before it looks at the fee. -/
structure DelegateDraft where
  latest : LatestBlockhash
  balance : ℕ
  /-- The stake and its rent. -/
  lamports : ℤ
  instructions : List Instruction
  deriving DecidableEq, Repr

section draft

variable (kit : SolanaKit) (rpc : SolanaRpcClient) (authority : String)

/-- The part of `buildDelegate` before the funding gate. -/
def draftDelegate (seedScanMax : Option ℤ) (base : BaseTransaction) (isMaxAmount : Bool)
    (validator : Option ValidatorRef) (resource : Option String) : Result DelegateDraft := do
  let validator ← assertDelegate base isMaxAmount validator resource
  assertAuthorityAddress kit authority
  if base.account.getD "" ≠ "" ∧ base.account ≠ some authority then
    throw (.validation .invalidAddress
      "transaction.account must match the fee-payer authority for Solana staking.")
  let vote ← kit.address validator.address
  let minDelegation ← rpc.getStakeMinimumDelegation
  let rentExempt ← rpc.getMinimumBalanceForRentExemption stakeAccountSpace
  let latest ← rpc.getLatestBlockhash
  let balance ← rpc.getBalance authority
  if base.amount < minDelegation then
    throw (.validation .invalidAmount
      (s!"Delegate amount {base.amount} is below stake minimum delegation "
        ++ s!"{minDelegation}."))
  let free ← findNextFreeSeed kit rpc authority (seedScanMax.getD defaultSeedScanMax)
  let stake ← kit.address free.stakeAddress
  return {
    latest, balance
    lamports := base.amount + rentExempt
    instructions :=
      [.createAccountWithSeed authority stake authority free.seed (base.amount + rentExempt)
          stakeAccountSpace stakeProgramAddress,
        .initializeChecked stake authority authority,
        .delegateStake stake vote stakeConfigAddress authority] }

/-- What the funding gate of `buildDelegate` asks for beside the stake and its rent. -/
def feeComponent (computeUnits computeUnitPrice total : ℤ) : ℤ :=
  max total (priorityFeeLamports computeUnits computeUnitPrice + delegateBaseFeeCushionLamports)

/-- The funding gate of `buildDelegate`. -/
def assertFunded (draft : DelegateDraft) (feeComponent : ℤ) : Result Unit := do
  let required := draft.lamports + feeComponent
  if draft.balance < required then
    throw (.validation .invalidAmount
      (s!"Insufficient balance to fund stake: need ~{required} lamports "
        ++ s!"(amount + rent + fee), have {draft.balance}."))

/-- **A Delegate**: what is laid out, the funding gate unless it is skipped, the message. -/
theorem buildDelegate_eq (deps : BuildTxDeps) (base : BaseTransaction) (isMaxAmount : Bool)
    (validator : Option ValidatorRef) (resource : Option String) (fee : SolanaFee) :
    buildDelegate kit deps base isMaxAmount validator resource fee =
      (draftDelegate kit deps.rpc deps.authorityAddress deps.seedScanMax base isMaxAmount validator
        resource >>= fun draft =>
      (if deps.skipBalanceCheck then pure () else assertFunded draft
        (feeComponent fee.computeUnits (computeUnitPriceOf deps fee) fee.total)) >>= fun _ =>
      buildMessage deps.authorityAddress draft.latest draft.instructions fee.computeUnits
        (computeUnitPriceOf deps fee)) := by
  have hmax : ∀ a b : ℤ, (if b < a then a else b) = max a b := by
    intro a b
    split <;> omega
  simp only [buildDelegate, draftDelegate, feeComponent, hmax]
  cases assertDelegate base isMaxAmount validator resource with
  | error e => rfl
  | ok validator =>
  cases assertAuthorityAddress kit deps.authorityAddress with
  | error e => rfl
  | ok _ =>
  by_cases haccount : base.account.getD "" ≠ "" ∧ base.account ≠ some deps.authorityAddress
  · simp only [if_pos haccount]
    rfl
  simp only [if_neg haccount, bind, Except.bind]
  cases kit.address validator.address with
  | error e => rfl
  | ok vote =>
  cases deps.rpc.getStakeMinimumDelegation with
  | error e => rfl
  | ok minDelegation =>
  cases deps.rpc.getMinimumBalanceForRentExemption stakeAccountSpace with
  | error e => rfl
  | ok rentExempt =>
  cases deps.rpc.getLatestBlockhash with
  | error e => rfl
  | ok latest =>
  cases deps.rpc.getBalance deps.authorityAddress with
  | error e => rfl
  | ok balance =>
  by_cases hmin : base.amount < minDelegation
  · simp only [if_pos hmin]
    rfl
  simp only [if_neg hmin]
  cases findNextFreeSeed kit deps.rpc deps.authorityAddress
      (deps.seedScanMax.getD defaultSeedScanMax) with
  | error e => rfl
  | ok free =>
  dsimp only
  cases kit.address free.stakeAddress with
  | error e => rfl
  | ok stake =>
  cases deps.skipBalanceCheck with
  | true => rfl
  | false =>
  simp only [Bool.not_false, if_true, Bool.false_eq_true, if_false, pure, Except.pure]
  split
  · next hshort => rw [assertFunded, if_pos hshort]
  · next hfunded =>
      rw [assertFunded, if_neg hfunded]
      rfl

end draft

/-! ## What passes the gates -/

/-- The authority of a view that a role looks at. -/
def StakeAccountView.authorityOf (view : StakeAccountView) (role : AuthorityRole) : Option String :=
  if role = .staker then view.staker else view.withdrawer

/-- What a decoded account has to be for the gates to let it through. -/
structure ViewGates (rpc : SolanaRpcClient) (authority : String) (role : AuthorityRole)
    (opts : StakeGateOpts) (view : StakeAccountView) : Prop where
  authority : view.authorityOf role = none ∨ view.authorityOf role = some authority
  deactivated : opts.rejectActiveStake = true → view.kind = .stake → view.deactivationEpoch ≠ u64Max
  delegated : opts.rejectNotDelegatedActive = true →
    view.kind = .stake ∧ view.deactivationEpoch = u64Max
  unlocked : opts.rejectLockup = true → ∀ lockup, view.lockup = some lockup →
    ∃ clock, rpc.getClock = .ok clock ∧ isLockupInForce lockup clock = false

section gates

variable {kit : SolanaKit} {rpc : SolanaRpcClient} {stakeAccount authority : String}
  {role : AuthorityRole} {opts : StakeGateOpts} {view : StakeAccountView}
  {account : SolanaAccountInfo}

/-- A stake account passed to a builder is the one it asserts. -/
theorem assertStakeAccount_eq_ok {type : TransactionType} {passed : Option String} {stake : String}
    (h : assertStakeAccount kit type passed = .ok stake) : passed = some stake := by
  unfold assertStakeAccount at h
  obtain ⟨hblank, h⟩ := guard_eq_ok.mp h
  obtain ⟨-, h⟩ := guard_eq_ok.mp h
  cases passed with
  | none => exact absurd (by decide) hblank
  | some s => exact congrArg some (Except.ok.inj h)

/-- The lockup gate lets through what is not in force. -/
theorem assertUnlocked_eq_ok {lockup : StakeLockup} :
    assertUnlocked rpc stakeAccount lockup = .ok () ↔
      ∃ clock, rpc.getClock = .ok clock ∧ isLockupInForce lockup clock = false := by
  unfold assertUnlocked
  rw [bind_eq_ok]
  apply exists_congr
  intro clock
  cases isLockupInForce lockup clock <;>
    simp [pure, Except.pure, throw, throwThe, MonadExceptOf.throw]

/-- **What the gates on a decoded account let through.** -/
theorem assertView_eq_ok :
    assertView rpc stakeAccount authority role opts view = .ok () ↔
      ViewGates rpc authority role opts view := by
  have hlast : (match view.lockup with
      | none => (pure () : Result Unit)
      | some lockup =>
          if opts.rejectLockup then assertUnlocked rpc stakeAccount lockup else pure ()) =
        .ok () ↔ (opts.rejectLockup = true → ∀ lockup, view.lockup = some lockup →
          ∃ clock, rpc.getClock = .ok clock ∧ isLockupInForce lockup clock = false) := by
    cases view.lockup with
    | none => simp [pure, Except.pure]
    | some lockup =>
        cases opts.rejectLockup with
        | false => simp [pure, Except.pure]
        | true => simpa using assertUnlocked_eq_ok
  unfold assertView
  rw [guard_eq_ok, guard_eq_ok, guard_eq_ok, guard_eq_ok, hlast]
  constructor
  · rintro ⟨hauthority, hactive, hkind, hepoch, hunlocked⟩
    refine ⟨?_, fun hopt hstake hmax => hactive ⟨hopt, hstake, hmax⟩, fun hopt => ⟨?_, ?_⟩,
      hunlocked⟩
    · by_contra hother
      exact hauthority (not_or.mp hother)
    · by_contra hother
      exact hkind ⟨hopt, hother⟩
    · by_contra hother
      exact hepoch ⟨hopt, hother⟩
  · rintro ⟨hauthority, hactive, hdelegated, hunlocked⟩
    refine ⟨fun hother => ?_, fun hother => ?_, fun hother => ?_, fun hother => ?_, hunlocked⟩
    · exact hauthority.elim hother.1 hother.2
    · exact hactive hother.1 hother.2.1 hother.2.2
    · exact hother.2 (hdelegated hother.1).1
    · exact hother.2 (hdelegated hother.1).2

/-- **What the gates let through**: an account that is there, of the stake program, and that meets
the gates on its view if it decodes. -/
theorem loadAndAssertStakeAccount_eq_ok :
    loadAndAssertStakeAccount kit rpc stakeAccount authority role opts = .ok account ↔
      (∃ read, rpc.getMultipleAccounts [stakeAccount] = .ok read ∧
        read.getD 0 none = some account) ∧
      account.owner = stakeProgramAddress ∧
      ∀ view, decodeStakeAccount kit account.data = some view →
        ViewGates rpc authority role opts view := by
  have hviews : ∀ found : SolanaAccountInfo, (match decodeStakeAccount kit found.data with
      | none => (pure found : Result SolanaAccountInfo)
      | some view => do
          assertView rpc stakeAccount authority role opts view
          return found) = .ok account ↔
        found = account ∧ ∀ view, decodeStakeAccount kit account.data = some view →
          ViewGates rpc authority role opts view := by
    intro found
    cases hview : decodeStakeAccount kit found.data with
    | none =>
        constructor
        · intro h
          obtain rfl := Except.ok.inj h
          exact ⟨rfl, fun view h => by rw [hview] at h; cases h⟩
        · rintro ⟨rfl, -⟩
          rfl
    | some view =>
        rw [bind_eq_ok]
        constructor
        · rintro ⟨⟨⟩, hassert, h⟩
          obtain rfl := Except.ok.inj h
          refine ⟨rfl, fun view' h => ?_⟩
          obtain rfl := Option.some.inj (hview.symm.trans h)
          exact assertView_eq_ok.mp hassert
        · rintro ⟨rfl, hall⟩
          exact ⟨(), assertView_eq_ok.mpr (hall view hview), rfl⟩
  unfold loadAndAssertStakeAccount
  rw [bind_eq_ok]
  constructor
  · rintro ⟨read, hread, h⟩
    cases hfound : read.getD 0 none with
    | none =>
        rw [hfound] at h
        cases h
    | some found =>
        rw [hfound] at h
        obtain ⟨howner, h⟩ := guard_eq_ok.mp h
        obtain ⟨rfl, hall⟩ := (hviews found).mp h
        exact ⟨⟨read, hread, hfound⟩, not_not.mp howner, hall⟩
  · rintro ⟨⟨read, hread, hfound⟩, howner, hall⟩
    refine ⟨read, hread, ?_⟩
    rw [hfound]
    exact guard_eq_ok.mpr ⟨not_not.mpr howner, (hviews account).mpr ⟨rfl, hall⟩⟩

end gates

/-! ## What a ClaimDelegate passes -/

section claim

variable {kit : SolanaKit} {rpc : SolanaRpcClient} {stakeAccount authority : String}
  {accounts : String → Option SolanaAccountInfo} {account : SolanaAccountInfo}
  {view : StakeAccountView} {clock : SolanaClock}

/-- On one state of the chain the gates look at the account of that state. -/
theorem loadAndAssertStakeAccount_eq_ok_of_reads {role : AuthorityRole} {opts : StakeGateOpts}
    (hrpc : ReadsAccounts rpc accounts) :
    loadAndAssertStakeAccount kit rpc stakeAccount authority role opts = .ok account ↔
      accounts stakeAccount = some account ∧ account.owner = stakeProgramAddress ∧
        ∀ view, decodeStakeAccount kit account.data = some view →
          ViewGates rpc authority role opts view := by
  rw [loadAndAssertStakeAccount_eq_ok]
  apply and_congr_left
  intro _
  rw [hrpc.getMultipleAccounts]
  simp

/-- The gates of a ClaimDelegate on a view of the authority: not a delegation that was never
deactivated, and no lockup in force. -/
structure Withdrawable (clock : SolanaClock) (view : StakeAccountView) : Prop where
  deactivated : view.kind = .stake → view.deactivationEpoch ≠ u64Max
  unlocked : ∀ lockup, view.lockup = some lockup → isLockupInForce lockup clock = false

/-- A view of the authority meets the gates of a ClaimDelegate iff it is withdrawable. -/
theorem viewGates_claim_iff (hclock : rpc.getClock = .ok clock)
    (hwithdrawer : view.withdrawer = some authority) :
    ViewGates rpc authority .withdrawer claimGates view ↔ Withdrawable clock view := by
  constructor
  · intro h
    refine ⟨h.deactivated rfl, fun lockup hlockup => ?_⟩
    obtain ⟨clock', hclock', hforce⟩ := h.unlocked rfl lockup hlockup
    obtain rfl := Except.ok.inj (hclock.symm.trans hclock')
    exact hforce
  · intro h
    exact ⟨Or.inr hwithdrawer, fun _ => h.deactivated, nofun,
      fun _ lockup hlockup => ⟨clock, hclock, h.unlocked lockup hlockup⟩⟩

/-- The state gates of `buildClaimDelegate`: it finds the account, asserts it, and it has
lamports. -/
def PassesClaimGates (kit : SolanaKit) (rpc : SolanaRpcClient) (stakeAccount authority : String) :
    Prop :=
  ∃ account, loadAndAssertStakeAccount kit rpc stakeAccount authority .withdrawer claimGates =
    .ok account ∧ 0 < account.lamports

/-- **What the gates come down to** for a stake account of the authority with lamports. -/
theorem passesClaimGates_iff (hrpc : ReadsAccounts rpc accounts) (hclock : rpc.getClock = .ok clock)
    (haccount : accounts stakeAccount = some account) (howner : account.owner = stakeProgramAddress)
    (hview : decodeStakeAccount kit account.data = some view)
    (hwithdrawer : view.withdrawer = some authority) (hlamports : 0 < account.lamports) :
    PassesClaimGates kit rpc stakeAccount authority ↔ Withdrawable clock view := by
  rw [← viewGates_claim_iff hclock hwithdrawer, PassesClaimGates]
  constructor
  · rintro ⟨read, hload, -⟩
    obtain ⟨hread, -, hall⟩ := (loadAndAssertStakeAccount_eq_ok_of_reads hrpc).mp hload
    obtain rfl := Option.some.inj (haccount.symm.trans hread)
    exact hall view hview
  · intro hgates
    refine ⟨account, (loadAndAssertStakeAccount_eq_ok_of_reads hrpc).mpr
      ⟨haccount, howner, fun view' hview' => ?_⟩, hlamports⟩
    obtain rfl := Option.some.inj (hview.symm.trans hview')
    exact hgates

/-- **What a built ClaimDelegate does**: it has passed the state gates, and it withdraws all
lamports of the account. -/
theorem buildClaimDelegate_eq_ok {deps : BuildTxDeps} {fee : SolanaFee} {result : BuildTxResult}
    (hrpc : ReadsAccounts deps.rpc accounts)
    (h : buildClaimDelegate kit deps (some stakeAccount) fee = .ok result) :
    PassesClaimGates kit deps.rpc stakeAccount deps.authorityAddress ∧
      ∃ account, accounts stakeAccount = some account ∧ result.message.instructions =
        [.withdraw stakeAccount deps.authorityAddress deps.authorityAddress account.lamports] := by
  obtain ⟨stake, hstake, h⟩ := bind_eq_ok.mp h
  obtain ⟨_, _, h⟩ := bind_eq_ok.mp h
  obtain ⟨account, hload, h⟩ := bind_eq_ok.mp h
  obtain ⟨latest, _, h⟩ := bind_eq_ok.mp h
  obtain ⟨hlamports, h⟩ := guard_eq_ok.mp h
  obtain ⟨cuLimit, _, h⟩ := bind_eq_ok.mp h
  obtain rfl := Except.ok.inj h
  obtain rfl := Option.some.inj (assertStakeAccount_eq_ok hstake)
  exact ⟨⟨account, hload, by omega⟩, account,
    ((loadAndAssertStakeAccount_eq_ok_of_reads hrpc).mp hload).1, rfl⟩

end claim

end GuardianStake.Solana
