import GuardianStake.Tron.StakingService

/-!
# Checking and building Tron transactions

The checks of `validations.ts`, the contracts `tx/tx-builder.ts` asks TronWeb for, and
`services/fee-service.ts`, which runs the checks.

* `assertVote_eq_ok` — what an accepted vote satisfies.
* `buildUnsignedTx_vote_eq_ok` — what a built vote consists of: one entry.
* `estimateFee_vote_eq_ok` — an estimated vote has passed `assertVote` on the account read.
-/

namespace GuardianStake.Tron

open Sdk

/-! ## Validations -/

/-- Source: `validations.ts`, `availableTronPower`. -/
def availableTronPower (account : TronAccount) : ℤ :=
  let frozen := account.totalFrozen
  let voted := (account.votes.map fun v => v.votes * sunPerTrx).sum
  let available := frozen - voted
  if 0 < available then available else 0

/-- Source: `validations.ts`, `assertFreeze`. -/
def assertFreeze (availableBalance amountSun : ℤ) : Result Unit := do
  if amountSun < sunPerTrx then
    throw (.validation .invalidAmount "Freeze amount must be at least 1 TRX.")
  if availableBalance < amountSun then
    throw (.validation .invalidAmount "Freeze amount exceeds available balance.")

/-- Source: `validations.ts`, `assertVote`. -/
def assertVote (account : TronAccount) (witnesses : List TronWitness) (srAddress : String)
    (amountSun : ℤ) : Result Unit := do
  if amountSun ≤ 0 then
    throw (.validation .invalidAmount "Vote amount must be greater than zero.")
  if amountSun.tmod sunPerTrx ≠ 0 then
    throw (.validation .invalidAmount "Vote amount must be a whole number of TRX.")
  if !witnesses.any fun w => w.address = srAddress then
    throw (.validation .unsupportedOperation s!"Unknown Super Representative \"{srAddress}\".")
  if availableTronPower account < amountSun then
    throw (.validation .invalidAmount
      "Vote amount exceeds available Tron Power (freeze more TRX first).")

/-- Source: `validations.ts`, `assertResource`. -/
def assertResource (resource : Option String) : Result TronResource :=
  if resource = some "BANDWIDTH" then .ok .bandwidth
  else if resource = some "ENERGY" then .ok .energy
  else
    .error (.validation .invalidResource
      "Tron freeze/unfreeze requires resource \"BANDWIDTH\" or \"ENERGY\".")

/-- Source: `validations.ts`, `assertUnfreeze`. -/
def assertUnfreeze (account : TronAccount) (resource : TronResource) (amountSun : ℤ) :
    Result Unit := do
  let frozen := ((account.frozen.find? fun f => f.resource = resource).map Frozen.amount).getD 0
  if amountSun ≤ 0 then
    throw (.validation .invalidAmount "Unfreeze amount must be greater than zero.")
  if frozen < amountSun then
    throw (.validation .invalidAmount
      s!"Unfreeze amount exceeds frozen {resource.toText} balance.")

/-! ## The builder -/

/-- The TronWeb call a transaction leads to, with its arguments. -/
inductive TronContract
  | freezeBalanceV2 (amount : Number) (resource : TronResource) (ownerAddress : String)
  | unfreezeBalanceV2 (amount : Number) (resource : TronResource) (ownerAddress : String)
  | vote (votes : List (String × Number)) (ownerAddress : String)
  | withdrawExpireUnfreeze (ownerAddress : String)
  | withdrawBlockRewards (ownerAddress : String)
  deriving DecidableEq, Repr

/-- The message for `isMaxAmount`. -/
def maxAmountMessage : String :=
  "Tron does not support isMaxAmount; pass an exact amount "
    ++ "(query getBalances/getDelegations for the max)."

/-- Source: `tx/tx-builder.ts`, `buildUnsignedTx`. -/
def buildUnsignedTx (tx : Transaction) (ownerAddress : String) : Result TronContract :=
  match tx with
  | .delegate base isMaxAmount _ resource => do
      if isMaxAmount then throw (.validation .invalidAmount maxAmountMessage)
      let resource ← assertResource resource
      if base.amount < sunPerTrx then
        throw (.validation .invalidAmount "Freeze amount must be at least 1 TRX.")
      if maxSafeInteger < base.amount then
        throw (.validation .invalidAmount
          "Freeze amount exceeds JavaScript safe integer limit for TronWeb.")
      return .freezeBalanceV2 (toNumber base.amount) resource ownerAddress
  | .undelegate base isMaxAmount _ resource _ => do
      if isMaxAmount then throw (.validation .invalidAmount maxAmountMessage)
      let resource ← assertResource resource
      if base.amount ≤ 0 then
        throw (.validation .invalidAmount "Unfreeze amount must be greater than zero.")
      if maxSafeInteger < base.amount then
        throw (.validation .invalidAmount
          "Unfreeze amount exceeds JavaScript safe integer limit for TronWeb.")
      return .unfreezeBalanceV2 (toNumber base.amount) resource ownerAddress
  | .vote base validator => do
      let validator ← assertValidator (.vote base validator)
      if base.amount.tmod sunPerTrx ≠ 0 then
        throw (.validation .invalidAmount "Vote amount must be a whole number of TRX.")
      let votes := toNumber (base.amount.tdiv sunPerTrx)
      if votes.nonpos then
        throw (.validation .invalidAmount "Vote amount must be greater than zero.")
      return .vote [(validator.address, votes)] ownerAddress
  | .claimDelegate .. => .ok (.withdrawExpireUnfreeze ownerAddress)
  | .claimRewards .. => .ok (.withdrawBlockRewards ownerAddress)
  | .redelegate .. =>
      .error (.signing .unsupportedTransactionType
        s!"Tron does not support transaction type \"{tx.type.toText}\".")

/-! ## Fee estimation -/

/-- Source: `services/fee-service.ts`, `requireAccount`. -/
def requireAccount (isAddress : String → Bool) (tx : Transaction) : Result String := do
  let account := tx.account.getD ""
  if account = "" then
    throw (.validation .invalidAddress
      "account is required to estimate/validate a Tron staking transaction")
  assertValidAddress isAddress account
  return account

/-- Source: `services/fee-service.ts`, `ESTIMATED_TX_BANDWIDTH`. -/
def estimatedTxBandwidth : ℤ := 350

/-- The checks of `estimateFee`, type by type. -/
def checkTransaction (isAddress : String → Bool) (rpc : TronRpcClient)
    (getWitnessMap : Result (List Validator)) (tx : Transaction) : Result Unit :=
  match tx with
  | .delegate base _ _ _ => do
      let address ← requireAccount isAddress tx
      let account ← rpc.getAccount address
      assertFreeze account.balance base.amount
  | .undelegate base _ _ resource _ => do
      let address ← requireAccount isAddress tx
      let account ← rpc.getAccount address
      let resource ← assertResource resource
      assertUnfreeze account resource base.amount
  | .vote base validator => do
      let address ← requireAccount isAddress tx
      let account ← rpc.getAccount address
      let witnessMap ← getWitnessMap
      let witnesses := witnessMap.map fun v =>
        { address := v.operatorAddress, voteCount := 0, url := v.name,
          isSr := v.status = .active : TronWitness }
      assertVote account witnesses validator.address base.amount
  | _ => .ok ()

/-- The check of the account's shape before the first request. -/
def checkShape (isAddress : String → Bool) (tx : Transaction) : Result Unit :=
  match tx with
  | .delegate .. | .undelegate .. | .vote .. => do
      let _ ← requireAccount isAddress tx
      return ()
  | _ => .ok ()

/-- The bandwidth an account has left; none without an account. -/
def availableBandwidth (rpc : TronRpcClient) (account : String) : Result ℤ :=
  if account = "" then .ok 0
  else do
    let res ← rpc.getAccountResources account
    let freeBandwidth :=
      if res.freeNetUsed < res.freeNetLimit then res.freeNetLimit - res.freeNetUsed else 0
    let stakedBandwidth := if res.netUsed < res.netLimit then res.netLimit - res.netUsed else 0
    return freeBandwidth + stakedBandwidth

/-- Source: `services/fee-service.ts`, `estimateFee`. -/
def estimateFee (isAddress : String → Bool) (rpc : TronRpcClient)
    (getWitnessMap : Result (List Validator)) (tx : Transaction) : Result Fee := do
  checkShape isAddress tx
  let transactionFee ← rpc.getTransactionFee
  let bandwidthPrice := max 1 (transactionFee.getD 1000)
  checkTransaction isAddress rpc getWitnessMap tx
  let available ← availableBandwidth rpc (tx.account.getD "")
  let total :=
    if estimatedTxBandwidth ≤ available then 0
    else (estimatedTxBandwidth - available) * bandwidthPrice
  return .resourceFee estimatedTxBandwidth 0 total

/-! ## What an accepted and built vote is -/

section vote

variable {account : TronAccount} {witnesses : List TronWitness} {srAddress : String} {amount : ℤ}

/-- The unvoted remainder, as long as there is one. -/
theorem availableTronPower_eq (account : TronAccount) :
    availableTronPower account = max 0 (account.totalFrozen - account.totalVoted) := by
  have hsame : (account.votes.map fun v => v.votes * sunPerTrx).sum = account.totalVoted := rfl
  simp only [availableTronPower, hsame]
  split <;> omega

/-- **What an accepted vote satisfies.** -/
theorem assertVote_eq_ok (h : assertVote account witnesses srAddress amount = .ok ()) :
    0 < amount ∧ amount.tmod sunPerTrx = 0 ∧ amount ≤ availableTronPower account := by
  unfold assertVote at h
  obtain ⟨hpos, h⟩ := guard_eq_ok.mp h
  obtain ⟨hwhole, h⟩ := guard_eq_ok.mp h
  obtain ⟨-, h⟩ := guard_eq_ok.mp h
  have hpower : ¬availableTronPower account < amount := by
    intro hlt
    simp [hlt, throw, throwThe, MonadExceptOf.throw] at h
  exact ⟨not_le.mp hpos, not_not.mp hwhole, not_lt.mp hpower⟩

/-- **What a built vote consists of**: one entry, for the validator named. -/
theorem buildUnsignedTx_vote_eq_ok {base : BaseTransaction} {validator : ValidatorRef}
    {ownerAddress : String} {contract : TronContract}
    (h : buildUnsignedTx (.vote base validator) ownerAddress = .ok contract) :
    contract =
      .vote [(validator.address, toNumber (base.amount.tdiv sunPerTrx))] ownerAddress := by
  obtain ⟨v, hv, h⟩ := bind_eq_ok.mp h
  obtain rfl : validator = v := Except.ok.inj hv
  obtain ⟨-, h⟩ := guard_eq_ok.mp h
  obtain ⟨-, h⟩ := guard_eq_ok.mp h
  exact (Except.ok.inj h).symm

/-- A quoted transaction has passed the checks of its type. -/
theorem checkTransaction_of_estimateFee {isAddress : String → Bool} {rpc : TronRpcClient}
    {getWitnessMap : Result (List Validator)} {tx : Transaction} {fee : Fee}
    (h : estimateFee isAddress rpc getWitnessMap tx = .ok fee) :
    checkTransaction isAddress rpc getWitnessMap tx = .ok () := by
  obtain ⟨_, _, h⟩ := bind_eq_ok.mp h
  obtain ⟨_, _, h⟩ := bind_eq_ok.mp h
  obtain ⟨_, hcheck, _⟩ := bind_eq_ok.mp h
  exact hcheck

/-- **An estimated vote has passed its check** on the account that was read. -/
theorem estimateFee_vote_eq_ok {isAddress : String → Bool} {rpc : TronRpcClient}
    {getWitnessMap : Result (List Validator)} {base : BaseTransaction} {validator : ValidatorRef}
    {fee : Fee}
    (h : estimateFee isAddress rpc getWitnessMap (.vote base validator) = .ok fee) :
    ∃ address account witnesses, base.account = some address ∧
      rpc.getAccount address = .ok account ∧
      assertVote account witnesses validator.address base.amount = .ok () := by
  have hcheck := checkTransaction_of_estimateFee h
  unfold checkTransaction at hcheck
  obtain ⟨address, haddress, hcheck⟩ := bind_eq_ok.mp hcheck
  obtain ⟨account, haccount, hcheck⟩ := bind_eq_ok.mp hcheck
  obtain ⟨witnessMap, _, hcheck⟩ := bind_eq_ok.mp hcheck
  refine ⟨address, account, _, ?_, haccount, hcheck⟩
  unfold requireAccount at haddress
  obtain ⟨hne, haddress⟩ := guard_eq_ok.mp haddress
  obtain ⟨_, _, haddress⟩ := bind_eq_ok.mp haddress
  have hsame : base.account.getD "" = address := Except.ok.inj haddress
  cases hacc : base.account with
  | none =>
      refine absurd ?_ hne
      show base.account.getD "" = ""
      rw [hacc]
      rfl
  | some a =>
      rw [hacc] at hsame
      exact congrArg some hsame

end vote

end GuardianStake.Tron
