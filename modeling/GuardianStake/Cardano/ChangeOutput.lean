import GuardianStake.Cardano.SignService

/-!
# The change output and the minimum UTxO

`buildBody` lets a change output through that is not below `computeMinOutputLovelace`. That is the
minimum for an output holding the minimum itself; the ledger asks for the minimum at the width the
amount really takes.

* `coinSizeLoop_exec_le` — the iteration passes no width that carries itself.
* `computeMinOutputLovelace_isLeast` — **where the iteration ends**: at the least amount that pays
  for an output of its own width.
* `computeMinOutputLovelace_meetsMinimum_iff` — **when a guarded amount meets the ledger's rule**:
  unless its coin field has just widened past it.
* `computeMinOutputLovelace_underfunded` — a guarded amount that does not.
* `buildBody_meetsMinimum` — the output of a built body, away from these.
-/

namespace GuardianStake.Cardano

open Sdk Found

/-- The ledger's minimum for an output that holds an amount, from the size of the output that holds
one lovelace: the coin field of 1 gives way to that of the amount. -/
def minimumLovelace (outputSize : ℕ) (coinsPerUtxoByte amount : ℤ) : ℤ :=
  coinsPerUtxoByte * (160 + (outputSize - cborUintSize 1 + cborUintSize amount))

/-- The coin field of an amount has just widened, to five bytes or to nine, and the price of the
wider output is above the amount, where the narrower output was still priced below the boundary. -/
def JustWidened (outputSize : ℕ) (coinsPerUtxoByte amount : ℤ) : Prop :=
  (coinsPerUtxoByte * (162 + outputSize) < 0x10000 ∧ 0x10000 ≤ amount ∧
    amount < coinsPerUtxoByte * (164 + outputSize)) ∨
  (coinsPerUtxoByte * (164 + outputSize) < 0x100000000 ∧ 0x100000000 ≤ amount ∧
    amount < coinsPerUtxoByte * (168 + outputSize))

section minimum

variable {sdk : CardanoSdk} {paymentAddress : String} {coinsPerUtxoByte minUtxo : ℤ}

/-- What an output is priced at, apart from its coin field. -/
theorem tentativeMinAda_eq (outputSize : ℕ) (coinsPerUtxoByte : ℤ) (latestCoinSize : ℕ) :
    tentativeMinAda outputSize coinsPerUtxoByte latestCoinSize =
      coinsPerUtxoByte * (160 + outputSize) + coinsPerUtxoByte * (latestCoinSize - 1) := by
  have hone : (cborUintSize 1 : ℤ) = 1 := rfl
  rw [tentativeMinAda, minUtxoOverhead, hone]
  ring

/-- The ledger's minimum is the price at the width of the amount. -/
theorem minimumLovelace_eq (outputSize : ℕ) (coinsPerUtxoByte amount : ℤ) :
    minimumLovelace outputSize coinsPerUtxoByte amount =
      tentativeMinAda outputSize coinsPerUtxoByte (cborUintSize amount) := by
  have hone : (cborUintSize 1 : ℤ) = 1 := rfl
  rw [tentativeMinAda_eq, minimumLovelace, hone]
  ring

/-- A wider coin field costs no less. -/
theorem tentativeMinAda_mono (hc : 0 ≤ coinsPerUtxoByte) (outputSize : ℕ) {l m : ℕ} (h : l ≤ m) :
    tentativeMinAda outputSize coinsPerUtxoByte l ≤
      tentativeMinAda outputSize coinsPerUtxoByte m := by
  unfold tentativeMinAda
  gcongr

/-- At least 160 bytes are priced whatever the coin field. -/
theorem base_le (hc : 0 ≤ coinsPerUtxoByte) (outputSize : ℕ) :
    coinsPerUtxoByte * 160 ≤ coinsPerUtxoByte * (160 + outputSize) := by
  gcongr
  omega

/-- The boundaries in terms of what is priced apart from the coin field. -/
theorem justWidened_iff {outputSize : ℕ} {amount : ℤ} :
    JustWidened outputSize coinsPerUtxoByte amount ↔
      (coinsPerUtxoByte * (160 + outputSize) + coinsPerUtxoByte * 2 < 0x10000 ∧
        0x10000 ≤ amount ∧
        amount < coinsPerUtxoByte * (160 + outputSize) + coinsPerUtxoByte * 4) ∨
      (coinsPerUtxoByte * (160 + outputSize) + coinsPerUtxoByte * 4 < 0x100000000 ∧
        0x100000000 ≤ amount ∧
        amount < coinsPerUtxoByte * (160 + outputSize) + coinsPerUtxoByte * 8) := by
  have hsplit : ∀ k : ℤ, coinsPerUtxoByte * (160 + k + outputSize) =
      coinsPerUtxoByte * (160 + outputSize) + coinsPerUtxoByte * k := by
    intro k
    ring
  have h2 := hsplit 2
  have h4 := hsplit 4
  have h8 := hsplit 8
  norm_num at h2 h4 h8
  rw [JustWidened, h2, h4, h8]

/-- The iteration starts at the narrowest width, and no step passes one whose own price fits in
it. -/
theorem coinSizeLoop_exec_le {outputSize w : ℕ} (hw : 1 ≤ w)
    (hfits : newCoinSize outputSize coinsPerUtxoByte w ≤ w) :
    (coinSizeLoop outputSize coinsPerUtxoByte).exec (cborUintSize 1) ≤ w := by
  have hstep : ∀ l, l ≤ w → newCoinSize outputSize coinsPerUtxoByte l ≤ w := fun l hl =>
    (newCoinSize_mono outputSize coinsPerUtxoByte hl).trans hfits
  apply (coinSizeLoop outputSize coinsPerUtxoByte).exec_induction (I := fun l => l ≤ w)
    (Q := fun l => l ≤ w) _ _ hw
  · intro l l' hl hbody
    simp only [coinSizeLoop] at hbody
    split at hbody
    · cases hbody
    · obtain rfl := Sum.inl.inj hbody
      exact hstep l hl
  · intro l r hl hbody
    simp only [coinSizeLoop] at hbody
    split at hbody
    · obtain rfl := Sum.inr.inj hbody
      exact hstep l hl
    · cases hbody

/-- **The minimum is the least one that carries itself**: it stays below every boundary below which
a price fits. -/
theorem computeMinOutputLovelace_lt (hc : 0 ≤ coinsPerUtxoByte)
    (h : computeMinOutputLovelace sdk paymentAddress coinsPerUtxoByte = .ok minUtxo)
    (bound : ℤ) {w : ℕ} (hw : 1 ≤ w) (hbound : ∀ n < bound, cborUintSize n ≤ w)
    (hlt : tentativeMinAda (sdk.outputSize paymentAddress) coinsPerUtxoByte w < bound) :
    minUtxo < bound := by
  obtain ⟨address, haddress, hrest⟩ := bind_eq_ok.mp h
  rw [← brand_eq_ok haddress] at hlt
  have hmin := (Except.ok.inj hrest).symm
  have hle := coinSizeLoop_exec_le hw (hbound _ hlt)
  calc minUtxo = tentativeMinAda (sdk.outputSize address) coinsPerUtxoByte
        ((coinSizeLoop (sdk.outputSize address) coinsPerUtxoByte).exec (cborUintSize 1)) := hmin
    _ ≤ tentativeMinAda (sdk.outputSize address) coinsPerUtxoByte w :=
        tentativeMinAda_mono hc _ hle
    _ < bound := hlt

/-- The width the iteration is left with is priced at most at any amount that pays for an output of
its own width: that width carries itself, so the iteration does not pass it. -/
theorem tentativeMinAda_exec_le (hc : 0 ≤ coinsPerUtxoByte) {outputSize : ℕ} {amount : ℤ}
    (hpays : minimumLovelace outputSize coinsPerUtxoByte amount ≤ amount) :
    tentativeMinAda outputSize coinsPerUtxoByte
        ((coinSizeLoop outputSize coinsPerUtxoByte).exec (cborUintSize 1)) ≤ amount := by
  rw [minimumLovelace_eq] at hpays
  have hfits : newCoinSize outputSize coinsPerUtxoByte (cborUintSize amount) ≤
      cborUintSize amount := cborUintSize_mono hpays
  have hle := coinSizeLoop_exec_le (cborUintSize_pos amount) hfits
  exact (tentativeMinAda_mono hc outputSize hle).trans hpays

/-- **Where the iteration ends**: it leaves, and the amount returned is the least one that pays for
an output of its own width. It pays for that exactly. -/
theorem computeMinOutputLovelace_isLeast (hc : 0 ≤ coinsPerUtxoByte)
    (hpayment : sdk.isPaymentAddress paymentAddress = true) :
    ∃ n latestCoinSize minUtxo,
      runFor (coinSizeLoop (sdk.outputSize paymentAddress) coinsPerUtxoByte).body n
        (cborUintSize 1) = some latestCoinSize ∧
      minUtxo =
        tentativeMinAda (sdk.outputSize paymentAddress) coinsPerUtxoByte latestCoinSize ∧
      computeMinOutputLovelace sdk paymentAddress coinsPerUtxoByte = .ok minUtxo ∧
      IsLeast {v : ℤ | coinsPerUtxoByte *
        (160 + sdk.outputSize paymentAddress - 1 + cborUintSize v) ≤ v} minUtxo ∧
      minUtxo = coinsPerUtxoByte *
        (160 + sdk.outputSize paymentAddress - 1 + cborUintSize minUtxo) := by
  have hprice : ∀ v : ℤ, coinsPerUtxoByte *
      (160 + sdk.outputSize paymentAddress - 1 + cborUintSize v) =
        minimumLovelace (sdk.outputSize paymentAddress) coinsPerUtxoByte v := by
    intro v
    have hone : (cborUintSize 1 : ℤ) = 1 := rfl
    rw [minimumLovelace, hone]
    ring
  have hok : computeMinOutputLovelace sdk paymentAddress coinsPerUtxoByte =
      .ok (tentativeMinAda (sdk.outputSize paymentAddress) coinsPerUtxoByte
        ((coinSizeLoop (sdk.outputSize paymentAddress) coinsPerUtxoByte).exec
          (cborUintSize 1))) := by
    rw [computeMinOutputLovelace, brand, if_pos hpayment]
    rfl
  have hfixed := computeMinOutputLovelace_fixed hok
  rw [← minimumLovelace_eq] at hfixed
  simp only [hprice]
  refine ⟨_, _, _, (coinSizeLoop _ _).runFor_exec (Nat.lt_succ_self _), rfl, hok, ⟨?_, ?_⟩, hfixed⟩
  · exact hfixed.ge
  · intro v hv
    exact tentativeMinAda_exec_le hc hv

/-- At mainnet's price. -/
theorem computeMinOutputLovelace_isLeast_mainnet :
    IsLeast {v : ℤ | 4310 * (160 + 61 - 1 + cborUintSize v) ≤ v} 969750 := by
  obtain ⟨n, latestCoinSize, minUtxo, -, -, hmin, hleast, -⟩ :=
    @computeMinOutputLovelace_isLeast vectorSdk vectorAddress 4310 (by norm_num)
      (by decide +kernel)
  have hvalue : computeMinOutputLovelace vectorSdk vectorAddress 4310 = .ok 969750 := by
    decide +kernel
  obtain rfl : minUtxo = 969750 := Except.ok.inj (hmin.symm.trans hvalue)
  exact hleast

/-- A guarded amount whose coin field has not just widened meets the ledger's rule. -/
theorem minimumLovelace_le_of_guarded (hc : 0 ≤ coinsPerUtxoByte)
    (h : computeMinOutputLovelace sdk paymentAddress coinsPerUtxoByte = .ok minUtxo) {amount : ℤ}
    (hguard : minUtxo ≤ amount)
    (hnot : ¬JustWidened (sdk.outputSize paymentAddress) coinsPerUtxoByte amount) :
    minimumLovelace (sdk.outputSize paymentAddress) coinsPerUtxoByte amount ≤ amount := by
  have hfixed := computeMinOutputLovelace_fixed h
  have hbase := base_le hc (sdk.outputSize paymentAddress)
  rw [justWidened_iff] at hnot
  rw [minimumLovelace_eq]
  rw [tentativeMinAda_eq] at hfixed ⊢
  generalize coinsPerUtxoByte * (160 + (sdk.outputSize paymentAddress : ℤ)) = base at *
  -- the widths of the minimum and of the amount, the first at most the second
  unfold cborUintSize at hfixed ⊢
  split_ifs at * <;> omega

/-- An amount whose coin field has just widened passes the guard and misses the ledger's rule: the
minimum is on the near side of the boundary. -/
theorem JustWidened.underfunded (hc : 0 ≤ coinsPerUtxoByte)
    (h : computeMinOutputLovelace sdk paymentAddress coinsPerUtxoByte = .ok minUtxo) {amount : ℤ}
    (hwidened : JustWidened (sdk.outputSize paymentAddress) coinsPerUtxoByte amount) :
    minUtxo ≤ amount ∧
      amount < minimumLovelace (sdk.outputSize paymentAddress) coinsPerUtxoByte amount := by
  have hthree := computeMinOutputLovelace_lt hc h 0x10000 (w := 3) (by norm_num)
    (by intro n hn; unfold cborUintSize; split_ifs <;> omega)
  have hfive := computeMinOutputLovelace_lt hc h 0x100000000 (w := 5) (by norm_num)
    (by intro n hn; unfold cborUintSize; split_ifs <;> omega)
  have hbase := base_le hc (sdk.outputSize paymentAddress)
  rw [justWidened_iff] at hwidened
  rw [minimumLovelace_eq]
  simp only [tentativeMinAda_eq] at *
  generalize coinsPerUtxoByte * (160 + (sdk.outputSize paymentAddress : ℤ)) = base at *
  rcases hwidened with ⟨hlt, hge, hgt⟩ | ⟨hlt, hge, hgt⟩
  · have hwidth : cborUintSize amount = 5 := by
      unfold cborUintSize
      split_ifs <;> omega
    rw [hwidth]
    exact ⟨(hthree (by omega)).le.trans hge, by omega⟩
  · have hwidth : cborUintSize amount = 9 := by
      unfold cborUintSize
      split_ifs <;> omega
    rw [hwidth]
    exact ⟨(hfive (by omega)).le.trans hge, by omega⟩

/-- **When a guarded amount meets the ledger's rule**: unless its coin field has just widened. -/
theorem computeMinOutputLovelace_meetsMinimum_iff (hc : 0 ≤ coinsPerUtxoByte)
    (h : computeMinOutputLovelace sdk paymentAddress coinsPerUtxoByte = .ok minUtxo)
    (amount : ℤ) :
    (minUtxo ≤ amount →
        minimumLovelace (sdk.outputSize paymentAddress) coinsPerUtxoByte amount ≤ amount) ↔
      ¬JustWidened (sdk.outputSize paymentAddress) coinsPerUtxoByte amount := by
  constructor
  · intro hmeets hwidened
    obtain ⟨hguard, hlt⟩ := hwidened.underfunded hc h
    exact (hmeets hguard).not_gt hlt
  · intro hnot hguard
    exact minimumLovelace_le_of_guarded hc h hguard hnot

/-- At mainnet's price, an output that holds the minimum. -/
theorem computeMinOutputLovelace_meetsMinimum_mainnet :
    ((969750 : ℤ) ≤ 969750 → minimumLovelace 61 4310 969750 ≤ 969750) ↔
      ¬JustWidened 61 4310 969750 :=
  @computeMinOutputLovelace_meetsMinimum_iff vectorSdk vectorAddress 4310 969750 (by norm_num)
    (by decide +kernel) 969750

/-- At 292 lovelace a byte the minimum fits three bytes, and the first amount of five passes the
guard below its own minimum. -/
theorem computeMinOutputLovelace_underfunded :
    computeMinOutputLovelace vectorSdk vectorAddress 292 = .ok 65116 ∧ 65116 ≤ (65536 : ℤ) ∧
      minimumLovelace (vectorSdk.outputSize vectorAddress) 292 65536 = 65700 ∧
      ¬minimumLovelace (vectorSdk.outputSize vectorAddress) 292 65536 ≤ 65536 := by
  decide +kernel

end minimum

/-! ## The output of a body -/

/-- **The output of a built body** meets the ledger's rule, unless its coin field has just
widened. -/
theorem buildBody_meetsMinimum {sdk : CardanoSdk} {transaction : Transaction}
    {paymentAddress : String} {selected : SelectedUtxos} {fee : ℤ}
    {protocolParams : BlockfrostProtocolParams} {stakeKeyHashHex : String} {ttl : ℤ}
    {isStakeKeyRegistered : Bool} {rewardsOnChain : ℤ} {body : TxBody} {coinsPerUtxoByte : ℤ}
    (h : buildBody sdk transaction paymentAddress selected fee protocolParams stakeKeyHashHex ttl
      isStakeKeyRegistered rewardsOnChain = .ok body)
    (hcoins : bigInt (protocolParams.coinsPerUtxoSize.getD defaultCoinsPerUtxoSize) =
      .ok coinsPerUtxoByte)
    (hc : 0 ≤ coinsPerUtxoByte) :
    ∃ out, body.outputs = [out] ∧ out.address = paymentAddress ∧
      (¬JustWidened (sdk.outputSize paymentAddress) coinsPerUtxoByte out.coins →
        minimumLovelace (sdk.outputSize paymentAddress) coinsPerUtxoByte out.coins ≤
          out.coins) := by
  obtain ⟨keyDeposit, t, certificates, withdrawals, -, ht, -, -, hguard, rfl⟩ := buildBody_eq_ok h
  obtain ⟨-, -, hmin, -, -⟩ := computeSelectionTarget_eq_ok.mp ht
  obtain ⟨c, hcoins', hmin⟩ := bind_eq_ok.mp hmin
  obtain rfl : coinsPerUtxoByte = c := Except.ok.inj (hcoins.symm.trans hcoins')
  exact ⟨_, rfl, rfl, minimumLovelace_le_of_guarded hc hmin hguard⟩

end GuardianStake.Cardano
