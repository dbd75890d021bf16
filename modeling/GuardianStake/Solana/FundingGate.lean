import GuardianStake.Sdk.Doubles
import GuardianStake.Solana.StakeGates

/-!
# The funding gate of a Delegate

`buildDelegate` of `tx/tx-builder.ts` asks for a balance that covers the stake, its rent and a fee,
`buildMessage` decides which compute budget instructions the message carries. The gate counts the
priority fee of the compute units and the price, the message carries the price without them.

* `priorityFeeLamports_eq_ceil` — the fee the gate counts, as the chain charges it.
* `buildDelegate_eq_ok` — what a built Delegate has passed, and what its message carries.
* `buildDelegate_priceCovered_iff` — **when the gate covers the price in the message**: when the fee
  has compute units or the price is not positive.
* `buildDelegate_uncovered` — a price without compute units.
-/

namespace GuardianStake.Solana

open Sdk

/-! ## What is built -/

/-- The fee the gate counts is that of the compute units at the price, rounded up. -/
theorem priorityFeeLamports_eq_ceil {computeUnits computeUnitPrice : ℤ} (hunits : 0 < computeUnits)
    (hprice : 0 < computeUnitPrice) :
    priorityFeeLamports computeUnits computeUnitPrice =
      ⌈((computeUnits * computeUnitPrice : ℤ) : ℚ) / 1000000⌉ := by
  have hpos : 0 < computeUnits * computeUnitPrice := Int.mul_pos hunits hprice
  unfold priorityFeeLamports
  rw [if_neg (by omega)]
  generalize computeUnits * computeUnitPrice = x at hpos
  rw [Int.tdiv_eq_ediv_of_nonneg (by omega)]
  have hsplit := Int.mul_ediv_add_emod (x + 1000000 - 1) 1000000
  have hlo := Int.emod_nonneg (x + 1000000 - 1) (b := 1000000) (by norm_num)
  have hhi := Int.emod_lt_of_pos (x + 1000000 - 1) (b := 1000000) (by norm_num)
  symm
  rw [Int.ceil_eq_iff, lt_div_iff₀ (by norm_num), div_le_iff₀ (by norm_num)]
  constructor
  · have hlt : ((x + 1000000 - 1) / 1000000 - 1) * 1000000 < x := by omega
    exact_mod_cast hlt
  · have hle : x ≤ (x + 1000000 - 1) / 1000000 * 1000000 := by omega
    exact_mod_cast hle

/-- The limit of the message is the fee's compute units, if there are any. -/
theorem computeUnitLimitOf_eq_ok {computeUnits : ℤ} {limit : Option ℤ}
    (h : computeUnitLimitOf computeUnits = .ok limit) :
    limit = if 0 < computeUnits then some computeUnits else none := by
  unfold computeUnitLimitOf at h
  split at h
  · next hpos =>
      rw [if_pos hpos]
      cases hcu : toNumber computeUnits with
      | other text =>
          rw [hcu] at h
          cases h
      | int cu =>
          rw [hcu] at h
          simp only at h
          split at h
          · next hsafe =>
              obtain rfl := Except.ok.inj h
              rw [eq_of_toNumber_isSafeInteger hcu hsafe.1]
          · cases h
  · next hpos =>
      obtain rfl := Except.ok.inj h
      rw [if_neg hpos]

section gate

variable {kit : SolanaKit} {deps : BuildTxDeps} {base : BaseTransaction} {isMaxAmount : Bool}
  {validator : Option ValidatorRef} {resource : Option String} {fee : SolanaFee}
  {result : BuildTxResult}

/-- The balance covers an amount on top of the stake and its rent. -/
def Covers (deps : BuildTxDeps) (base : BaseTransaction) (amount : ℤ) : Prop :=
  ∃ rentExempt balance, deps.rpc.getMinimumBalanceForRentExemption stakeAccountSpace =
      .ok rentExempt ∧ deps.rpc.getBalance deps.authorityAddress = .ok balance ∧
    base.amount + rentExempt + amount ≤ balance

/-- What a built Delegate has passed, and what its message carries. -/
theorem buildDelegate_eq_ok (hcheck : deps.skipBalanceCheck = false)
    (h : buildDelegate kit deps base isMaxAmount validator resource fee = .ok result) :
    Covers deps base (max fee.total
      (priorityFeeLamports fee.computeUnits (computeUnitPriceOf deps fee) +
        delegateBaseFeeCushionLamports)) ∧
    result.message.computeUnitLimit =
      (if 0 < fee.computeUnits then some fee.computeUnits else none) ∧
    result.message.computeUnitPrice =
      if 0 < computeUnitPriceOf deps fee then some (computeUnitPriceOf deps fee) else none := by
  unfold buildDelegate at h
  obtain ⟨vote, -, h⟩ := bind_eq_ok.mp h
  obtain ⟨_, -, h⟩ := bind_eq_ok.mp h
  obtain ⟨-, h⟩ := guard_eq_ok.mp h
  obtain ⟨voteAddress, -, h⟩ := bind_eq_ok.mp h
  obtain ⟨minDelegation, -, h⟩ := bind_eq_ok.mp h
  obtain ⟨rentExempt, hrent, h⟩ := bind_eq_ok.mp h
  obtain ⟨latest, -, h⟩ := bind_eq_ok.mp h
  obtain ⟨balance, hbalance, h⟩ := bind_eq_ok.mp h
  obtain ⟨-, h⟩ := guard_eq_ok.mp h
  obtain ⟨free, -, h⟩ := bind_eq_ok.mp h
  obtain ⟨stake, -, h⟩ := bind_eq_ok.mp h
  simp only [hcheck, Bool.not_false, if_true] at h
  obtain ⟨hfunded, h⟩ := guard_eq_ok.mp h
  obtain ⟨limit, hlimit, h⟩ := bind_eq_ok.mp h
  obtain rfl := Except.ok.inj h
  refine ⟨⟨rentExempt, balance, hrent, hbalance, ?_⟩, computeUnitLimitOf_eq_ok hlimit, rfl⟩
  have hmax : (if priorityFeeLamports fee.computeUnits (computeUnitPriceOf deps fee) +
      delegateBaseFeeCushionLamports < fee.total then fee.total
      else priorityFeeLamports fee.computeUnits (computeUnitPriceOf deps fee) +
        delegateBaseFeeCushionLamports) =
      max fee.total (priorityFeeLamports fee.computeUnits (computeUnitPriceOf deps fee) +
        delegateBaseFeeCushionLamports) := by
    split <;> omega
  rw [hmax, not_lt] at hfunded
  exact hfunded

/-- A positive price in the message of a Delegate is covered: the message carries a limit, too, and
the balance covers the fee of the two and the cushion on top of the stake and its rent. -/
def PriceCovered (deps : BuildTxDeps) (base : BaseTransaction) (message : TransactionMessage) :
    Prop :=
  ∀ p, message.computeUnitPrice = some p → 0 < p →
    ∃ u, message.computeUnitLimit = some u ∧
      Covers deps base (⌈((u * p : ℤ) : ℚ) / 1000000⌉ + delegateBaseFeeCushionLamports)

/-- **When the gate covers the price in the message**: when the fee has compute units, or the price
chosen for it is not positive and the message carries none. -/
theorem buildDelegate_priceCovered_iff (hcheck : deps.skipBalanceCheck = false)
    (h : buildDelegate kit deps base isMaxAmount validator resource fee = .ok result) :
    PriceCovered deps base result.message ↔
      0 < fee.computeUnits ∨ computeUnitPriceOf deps fee ≤ 0 := by
  obtain ⟨⟨rentExempt, balance, hrent, hbalance, hfunded⟩, hlimit, hprice⟩ :=
    buildDelegate_eq_ok hcheck h
  unfold PriceCovered
  rw [hlimit, hprice]
  constructor
  · intro hcovered
    by_contra hneither
    obtain ⟨hunits, hpos⟩ := not_or.mp hneither
    rw [if_pos (by omega), if_neg hunits] at hcovered
    obtain ⟨u, hu, -⟩ := hcovered _ rfl (by omega)
    cases hu
  · intro hcond p hp hpos
    split at hp
    case isFalse => cases hp
    case isTrue =>
      obtain rfl := Option.some.inj hp
      have hunits : 0 < fee.computeUnits := hcond.resolve_right (by omega)
      refine ⟨fee.computeUnits, if_pos hunits, rentExempt, balance, hrent, hbalance, ?_⟩
      rw [priorityFeeLamports_eq_ceil hunits hpos] at hfunded
      omega

end gate

/-! ### A Delegate of one SOL -/

/-- Kit on the wallet, with its first stake account and a vote account. -/
def delegateKit : SolanaKit :=
  { walletKit with
    isAddress := fun address =>
      address = wallet || address = walletAddress 0 ||
        address = "CertusDeBmqN8ZawdkxK5kFGMwBXdudvWHYwtNgNhvLu" }

/-- The wallet without stake accounts, with a balance. -/
def delegateDeps (balance : ℕ) : BuildTxDeps :=
  { rpc := { rpcOf (walletAt ∅) with getBalance := fun _ => .ok balance }
    authorityAddress := wallet }

/-- One SOL of the wallet. -/
def oneSol : BaseTransaction :=
  { chain := { id := "solana-mainnet", chainId := none }, amount := 1000000000,
    account := some wallet }

/-- The message of the Delegate, with its compute budget. -/
def delegateResult (computeUnitLimit computeUnitPrice : Option ℤ) : BuildTxResult where
  message :=
    { feePayer := wallet, blockhash := "EETubP5AKHgjPAhzPAFcb8BAY1hMH639CWCFTqi3hq1k"
      lastValidBlockHeight := 1, computeUnitLimit, computeUnitPrice
      instructions :=
        [.createAccountWithSeed wallet (walletAddress 0) wallet "0" 1002282880 stakeAccountSpace
            stakeProgramAddress,
          .initializeChecked (walletAddress 0) wallet wallet,
          .delegateStake (walletAddress 0) "CertusDeBmqN8ZawdkxK5kFGMwBXdudvWHYwtNgNhvLu"
            stakeConfigAddress wallet] }
  feePayer := wallet
  recentBlockhash := "EETubP5AKHgjPAhzPAFcb8BAY1hMH639CWCFTqi3hq1k"

/-- The vote account as the validator of the Delegate. -/
def oneSolValidator : Option ValidatorRef :=
  some (.operatorAddress "CertusDeBmqN8ZawdkxK5kFGMwBXdudvWHYwtNgNhvLu")

/-- With the compute units quoted, the gate covers the price. -/
theorem buildDelegate_priceCovered_quoted :
    PriceCovered (delegateDeps 1002312880) oneSol
      (delegateResult (some 200000) (some 100000)).message := by
  have hbuilt : buildDelegate delegateKit (delegateDeps 1002312880) oneSol false oneSolValidator
      none { computeUnits := 200000, computeUnitPrice := some 100000, total := 0 } =
        .ok (delegateResult (some 200000) (some 100000)) := by
    decide +kernel
  exact (buildDelegate_priceCovered_iff rfl hbuilt).mpr (.inl (by decide))

/-- **A price without compute units**: with a fee of zero compute units the message carries the
price but no limit, and the balance was asked for the cushion only. -/
theorem buildDelegate_uncovered :
    buildDelegate delegateKit (delegateDeps 1002292880) oneSol false oneSolValidator none
        { computeUnits := 0, computeUnitPrice := some 100000, total := 0 } =
      .ok (delegateResult none (some 100000)) ∧
    ¬PriceCovered (delegateDeps 1002292880) oneSol (delegateResult none (some 100000)).message := by
  refine ⟨by decide +kernel, fun hcovered => ?_⟩
  obtain ⟨u, hu, -⟩ := hcovered 100000 rfl (by decide)
  cases hu

end GuardianStake.Solana
