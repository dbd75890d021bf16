import GuardianStake.Tron.StakingService

/-!
# Tron balances, and that they agree with the delegations

`services/balance-service.ts` computes the totals straight from the account;
`services/staking-service.ts` lists entries. `getDelegations_agrees_getBalances` is the statement
that the two routes lead to the same amounts.
-/

namespace GuardianStake.Tron

open Sdk

/-- The balances of an account. -/
def balancesOf (account : TronAccount) (rewards now : ℤ) : List Balance :=
  let staked := account.totalFrozen
  let pending := ((account.unfreezing.filter fun u => now < u.expireTime).map Unfreezing.amount).sum
  let claimable :=
    ((account.unfreezing.filter fun u => u.expireTime ≤ now).map Unfreezing.amount).sum
  [{ type := .available, amount := account.balance }, { type := .staked, amount := staked },
    { type := .pending, amount := pending }, { type := .claimable, amount := claimable },
    { type := .rewards, amount := rewards }]

/-- Source: `services/balance-service.ts`, `getBalances`. -/
def getBalances (isAddress : String → Bool) (rpc : TronRpcClient) (now : ℤ) (address : String) :
    Result (List Balance) := do
  assertValidAddress isAddress address
  let account ← rpc.getAccount address
  let rewards ← rpc.getReward address
  return balancesOf account rewards now

/-- The listed amount of each type is the balance of that type. -/
theorem totalOfType_balancesOf (account : TronAccount) (rewards now : ℤ) :
    totalOfType .staked (balancesOf account rewards now) = account.totalFrozen ∧
      totalOfType .pending (balancesOf account rewards now) =
        ((account.unfreezing.filter fun u => now < u.expireTime).map Unfreezing.amount).sum ∧
      totalOfType .claimable (balancesOf account rewards now) =
        ((account.unfreezing.filter fun u => u.expireTime ≤ now).map Unfreezing.amount).sum := by
  refine ⟨?_, ?_, ?_⟩ <;> simp [totalOfType, balancesOf]

/-- **Delegations and balances agree.** At one time and for one account with non-negative amounts:
Active and Frozen entries add up to Staked, which is all that is frozen; Pending entries add up to
Pending and Claimable ones to Claimable; and every entry is worth something. -/
theorem getDelegations_agrees_getBalances {isAddress : String → Bool} {rpc : TronRpcClient}
    {load : TronAccount → Result (String → Option Validator)} {now : ℤ} {address : String}
    {account : TronAccount} (hrpc : rpc.getAccount address = .ok account)
    (hacc : account.NonNegative) {ds : List Delegation} {bs : List Balance}
    (hds : getDelegations isAddress rpc load now address = .ok ds)
    (hbs : getBalances isAddress rpc now address = .ok bs) :
    totalWithStatus .active ds + totalWithStatus .frozen ds = totalOfType .staked bs ∧
      totalOfType .staked bs = account.totalFrozen ∧
      totalWithStatus .pending ds = totalOfType .pending bs ∧
      totalWithStatus .claimable ds = totalOfType .claimable bs ∧
      ∀ d ∈ ds, 0 < d.amount := by
  obtain ⟨-, -, hds⟩ := bind_eq_ok.mp hds
  obtain ⟨-, -, hbs⟩ := bind_eq_ok.mp hbs
  obtain ⟨read, hread, hds⟩ := bind_eq_ok.mp hds
  obtain ⟨read', hread', hbs⟩ := bind_eq_ok.mp hbs
  rw [Except.ok.inj (hread.symm.trans hrpc)] at hds
  rw [Except.ok.inj (hread'.symm.trans hrpc)] at hbs
  obtain ⟨enriched, -, hds⟩ := bind_eq_ok.mp hds
  obtain ⟨rewards, -, hbs⟩ := bind_eq_ok.mp hbs
  obtain rfl := Except.ok.inj hds
  obtain rfl := Except.ok.inj hbs
  obtain ⟨hstaked, hpending, hclaimable⟩ := totalOfType_balancesOf account rewards now
  -- no unfreezing entry is Active or Frozen
  have hneither : ∀ status, status ≠ .claimable → status ≠ .pending →
      partsWithStatus status (unfreezeParts address now account) = 0 := by
    intro status hc hp
    rw [partsWithStatus_unfreezeParts address now hacc status (fun _ => false) fun u => by
      split <;> simp [hc.symm, hp.symm]]
    simp
  refine ⟨?_, hstaked, ?_, ?_, delegationsOf_pos enriched address now⟩
  · rw [totalWithStatus_delegationsOf, totalWithStatus_delegationsOf,
      hneither .active (by decide) (by decide), hneither .frozen (by decide) (by decide),
      sum_activeParts enriched address hacc, sum_frozenParts address hacc, hstaked]
    simp
  · rw [totalWithStatus_delegationsOf, hpending,
      partsWithStatus_unfreezeParts address now hacc .pending (fun u => now < u.expireTime) fun u =>
        by by_cases h : u.expireTime ≤ now <;> simp [h, not_le.mp, not_lt]]
    simp
  · rw [totalWithStatus_delegationsOf, hclaimable,
      partsWithStatus_unfreezeParts address now hacc .claimable (fun u => u.expireTime ≤ now)
        fun u => by by_cases h : u.expireTime ≤ now <;> simp [h]]
    simp

/-! ### An over-voted wallet -/

/-- 109 TRX frozen under two resources, 200 votes for two Super Representatives from before a
partial unfreeze, and two unfreezing entries, one of them matured. -/
def overVotedAccount : TronAccount :=
  { balance := 5000000
    frozen := [{ resource := .bandwidth, amount := 100000001 },
      { resource := .energy, amount := 9000000 }]
    unfreezing := [{ resource := .energy, amount := 7000000, expireTime := 1000 },
      { resource := .bandwidth, amount := 84000000, expireTime := 3000 }]
    votes := [{ srAddress := "TSR", votes := 150 }, { srAddress := "TSR2", votes := 50 }] }

/-- A node that knows that account. -/
def overVotedRpc : TronRpcClient where
  getAccount := fun _ => .ok overVotedAccount
  getReward := fun _ => .ok 12
  getTransactionFee := .ok (some 1000)
  getAccountResources := fun _ => .ok ⟨600, 0, 0, 0⟩

/-- Its capped votes use up what is frozen, dust included. -/
theorem getDelegations_overVotedAccount :
    ∃ ds bs, getDelegations (fun _ => true) overVotedRpc (fun _ => .ok fun _ => none) 2000 "T" =
        .ok ds ∧ getBalances (fun _ => true) overVotedRpc 2000 "T" = .ok bs ∧
      totalWithStatus .active ds + totalWithStatus .frozen ds = totalOfType .staked bs ∧
      totalWithStatus .claimable ds = totalOfType .claimable bs := by
  have hacc : overVotedAccount.NonNegative := ⟨by decide, by decide, by decide⟩
  have hrpc : overVotedRpc.getAccount "T" = .ok overVotedAccount := rfl
  have hds : getDelegations (fun _ => true) overVotedRpc (fun _ => .ok fun _ => none) 2000 "T" =
      .ok _ := rfl
  have hbs : getBalances (fun _ => true) overVotedRpc 2000 "T" = .ok _ := rfl
  obtain ⟨hstaked, -, -, hclaimable, -⟩ := getDelegations_agrees_getBalances hrpc hacc hds hbs
  exact ⟨_, _, hds, hbs, hstaked, hclaimable⟩

end GuardianStake.Tron
