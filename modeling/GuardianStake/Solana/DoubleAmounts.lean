import GuardianStake.Sdk.DoubleError
import GuardianStake.Solana.Activation

/-!
# The amounts of an epoch, in doubles

The walks of `state/activation.ts` as they calculate: `Number(amount) / Number(moving)` times
`Number(effective) * rate`, truncated, and converted back by `BigInt`, which throws on what is not an
integer.

* `perEpochAmount_eq_ok` — on `u64`s it never throws: what it moves is one lamport at least, and off
  the exact amount by a part in `2 ^ 49` and less than one lamport.
* `doubleAmounts` — so it is one of the amounts that `computeStakeActivation` allows for.
* `computeStakeActivationThrowing_eq_ok` — on `u64`s the code returns what `computeStakeActivation`
  returns for these amounts.
* `exists_perEpochAmounts` — **the activation in doubles**, in terms of amounts close to the exact
  ones.
-/

namespace GuardianStake.Solana

open Found Sdk

/-! ## The code -/

section code

variable (rate : Double)

/-- `BigInt(Math.max(1, Math.trunc(weight * cluster)))` in either walk. -/
def perEpochAmount (amount : ℤ) (moving effective : ℕ) : Result ℤ :=
  let weight := Double.ofInt amount / Double.ofInt moving
  let newlyCluster := Double.ofInt effective * rate
  Double.toBigInt (Double.max 1 (weight * newlyCluster).trunc)

/-- A walk goes on as `Walk.advance` does, or leaves with a result. -/
def Walk.advanceOk (w : Walk) (history : StakeHistoryMap) (done : Prop) [Decidable done]
    (currentEffective : ℤ) : Walk ⊕ Result ℤ :=
  (w.advance history done currentEffective).map id .ok

section steps

variable (delegation : DelegationInput) (targetEpoch : ℕ) (history : StakeHistoryMap) (w : Walk)

/-- One iteration of the loop of `stakeAndActivating`, where `BigInt` may throw. -/
def activationStepThrowing : Walk ⊕ Result ℤ :=
  if w.prevCluster.activating = 0 then .inr (.ok w.currentEffective)
  else
    let remainingActivating := delegation.stake - w.currentEffective
    match perEpochAmount rate remainingActivating w.prevCluster.activating
        w.prevCluster.effective with
    | .error e => .inr (.error e)
    | .ok newlyEffective =>
        let currentEffective := w.currentEffective + newlyEffective
        if delegation.stake ≤ currentEffective then .inr (.ok delegation.stake)
        else
          w.advanceOk history
            (targetEpoch ≤ w.prevEpoch + 1 ∨ delegation.deactivationEpoch ≤ w.prevEpoch + 1)
            currentEffective

/-- One iteration of the loop of `computeStakeActivation`, where `BigInt` may throw. -/
def deactivationStepThrowing : Walk ⊕ Result ℤ :=
  if w.prevCluster.deactivating = 0 then .inr (.ok w.currentEffective)
  else
    match perEpochAmount rate w.currentEffective w.prevCluster.deactivating
        w.prevCluster.effective with
    | .error e => .inr (.error e)
    | .ok newlyNotEffective =>
        let currentEffective :=
          if newlyNotEffective < w.currentEffective then w.currentEffective - newlyNotEffective
          else 0
        if currentEffective = 0 then .inr (.ok currentEffective)
        else w.advanceOk history (targetEpoch ≤ w.prevEpoch + 1) currentEffective

end steps

end code

/-! ## An amount -/

section amount

variable {rate : Double} {amount : ℤ} {moving effective : ℕ} {ρ : ℚ}

/-- What is converted is one at least. -/
theorem one_le_of_toBigInt_max_one {a : Double} {n : ℤ}
    (h : Double.toBigInt (Double.max 1 a) = .ok n) : 1 ≤ n := by
  cases a with
  | nan => cases h
  | infinity negative =>
      cases negative with
      | false => cases h
      | true =>
          have hone : Double.toBigInt (Double.max 1 (.infinity true)) = .ok 1 := by decide
          rw [hone] at h
          exact (Except.ok.inj h).le
  | finite x =>
      have hmax : Double.max 1 (.finite x) = .finite (1 ⊔ x) := by
        show Double.max (.finite (1 : ℕ)) (.finite x) = _
        rw [Double.max_finite, Nat.cast_one]
      rw [hmax, Double.toBigInt] at h
      split at h
      · next hden =>
          obtain rfl := Except.ok.inj h
          have hle : (1 : ℚ) ≤ 1 ⊔ x := le_sup_left
          rw [← Rat.coe_int_num_of_den_eq_one hden] at hle
          exact_mod_cast hle
      · cases h

/-- What an epoch moves is one lamport at least. -/
theorem one_le_of_perEpochAmount {n : ℤ} (h : perEpochAmount rate amount moving effective = .ok n) :
    1 ≤ n :=
  one_le_of_toBigInt_max_one h

/-- A `u64` is moderate. -/
theorem moderate_natCast {n : ℕ} (hn : n < 2 ^ 64) : Moderate 64 (n : ℚ) := by
  rcases Nat.eq_zero_or_pos n with rfl | hpos
  · exact Or.inl Nat.cast_zero
  · right
    constructor
    · calc (2 : ℚ)⁻¹ ^ 64 ≤ 1 := pow_le_one₀ (by norm_num) (by norm_num)
        _ ≤ n := by exact_mod_cast hpos
    · exact_mod_cast hn.le

/-- The amount an epoch moves, exactly. -/
def exactAmount (ρ : ℚ) (amount : ℤ) (moving effective : ℕ) : ℚ :=
  amount / moving * (effective * ρ)

/-- **An amount in doubles**, of `u64`s: it is an integer, one at least, and off the exact amount by
a part in `2 ^ 49` and less than one. -/
theorem perEpochAmount_eq_ok (hamount : 0 ≤ amount) (hamount' : amount < 2 ^ 64)
    (hmoving : 0 < moving) (hmoving' : moving < 2 ^ 64) (heffective : effective < 2 ^ 64)
    (hρ : Moderate 64 ρ) :
    ∃ n, perEpochAmount (Double.ofRat ρ) amount moving effective = .ok n ∧ 1 ≤ n ∧
      |(n : ℚ) - (⌊exactAmount ρ amount moving effective⌋ ⊔ 1 : ℤ)| <
        exactAmount ρ amount moving effective / 2 ^ 49 + 1 := by
  obtain ⟨m, rfl⟩ := Int.eq_ofNat_of_zero_le hamount
  have hm : m < 2 ^ 64 := by exact_mod_cast hamount'
  have hofInt : ∀ n : ℕ, n < 2 ^ 64 → (Double.ofInt n).Approx 1 64 n := by
    intro n hn
    rw [Double.ofInt, Int.cast_natCast]
    exact Double.ofRat_approx (moderate_natCast hn) (by norm_num)
  have hne : (moving : ℚ) ≠ 0 := by exact_mod_cast hmoving.ne'
  have hweight := (hofInt m hm).div (hofInt moving hmoving') hne (by norm_num) (by norm_num)
  have hcluster := (hofInt effective heffective).mul (Double.ofRat_approx hρ (by norm_num))
    (by norm_num) (by norm_num)
  have hproduct := hweight.mul hcluster (by norm_num) (by norm_num)
  obtain ⟨n, hn, hone, herr⟩ := Double.toBigInt_max_one_trunc hproduct (by norm_num)
  refine ⟨n, hn, hone, ?_⟩
  have hexact : exactAmount ρ m moving effective = m / moving * (effective * ρ) := by
    rw [exactAmount, Int.cast_natCast]
  rw [hexact]
  refine herr.trans_le (add_le_add_left ?_ 1)
  have hnonneg : 0 ≤ (m : ℚ) / moving * (effective * ρ) := hproduct.1.nonneg
  rw [Double.unitRoundoff]
  norm_num
  linarith

end amount

/-! ## The walks -/

section walks

variable {rate : Double} {delegation : DelegationInput} {targetEpoch : ℕ}
  {history : StakeHistoryMap} {w w' : Walk}

theorem Walk.advanceOk_eq_inl {done : Prop} [Decidable done] {currentEffective : ℤ}
    (h : w.advanceOk history done currentEffective = .inl w') :
    w'.currentEffective = currentEffective := by
  unfold advanceOk at h
  cases hadvance : w.advance history done currentEffective with
  | inl w'' =>
      rw [hadvance] at h
      obtain rfl : w'' = w' := Sum.inl.inj h
      exact Walk.advance_eq_inl hadvance
  | inr r =>
      rw [hadvance] at h
      cases h

/-- What an activation step that goes on does. -/
theorem activationStepThrowing_eq_inl
    (h : activationStepThrowing rate delegation targetEpoch history w = .inl w') :
    w.currentEffective < w'.currentEffective ∧ w'.currentEffective < delegation.stake := by
  unfold activationStepThrowing at h
  split at h
  · cases h
  · simp only at h
    split at h
    · cases h
    · next newlyEffective hnewly =>
        have hone := one_le_of_perEpochAmount hnewly
        split at h
        · cases h
        · have hcur := Walk.advanceOk_eq_inl h
          omega

/-- What a deactivation step that goes on does. -/
theorem deactivationStepThrowing_eq_inl
    (h : deactivationStepThrowing rate targetEpoch history w = .inl w') :
    0 < w'.currentEffective ∧ w'.currentEffective < w.currentEffective := by
  unfold deactivationStepThrowing at h
  split at h
  · cases h
  · split at h
    · cases h
    · next newlyNotEffective hnewly =>
        have hone := one_le_of_perEpochAmount hnewly
        simp only at h
        generalize hleft : (if newlyNotEffective < w.currentEffective then
          w.currentEffective - newlyNotEffective else 0) = left at h
        split at h
        · cases h
        · next hne =>
            have hcur := Walk.advanceOk_eq_inl h
            split at hleft <;> omega

/-- What is left to activate shrinks. -/
theorem toNat_sub_lt_of_activationStepThrowing
    (h : activationStepThrowing rate delegation targetEpoch history w = .inl w') :
    (delegation.stake - w'.currentEffective).toNat <
      (delegation.stake - w.currentEffective).toNat := by
  have hstep := activationStepThrowing_eq_inl h
  omega

/-- What is left to deactivate shrinks. -/
theorem toNat_lt_of_deactivationStepThrowing
    (h : deactivationStepThrowing rate targetEpoch history w = .inl w') :
    w'.currentEffective.toNat < w.currentEffective.toNat := by
  have hstep := deactivationStepThrowing_eq_inl h
  omega

variable (rate delegation targetEpoch history)

/-- The loop of `stakeAndActivating`. -/
def activationWalkThrowing : Loop Walk (Result ℤ) where
  body := activationStepThrowing rate delegation targetEpoch history
  rank := fun w => (delegation.stake - w.currentEffective).toNat
  rank_lt := toNat_sub_lt_of_activationStepThrowing

/-- The loop of `computeStakeActivation`. -/
def deactivationWalkThrowing : Loop Walk (Result ℤ) where
  body := deactivationStepThrowing rate targetEpoch history
  rank := fun w => w.currentEffective.toNat
  rank_lt := toNat_lt_of_deactivationStepThrowing

/-- Source: `state/activation.ts`, `stakeAndActivating`, where `BigInt` may throw. -/
def stakeAndActivatingThrowing : Result (ℤ × ℤ) :=
  if delegation.activationEpoch = u64Max then .ok (delegation.stake, 0)
  else if delegation.activationEpoch = delegation.deactivationEpoch then .ok (0, 0)
  else if targetEpoch = delegation.activationEpoch then .ok (0, delegation.stake)
  else if targetEpoch < delegation.activationEpoch then .ok (0, 0)
  else
    match history delegation.activationEpoch with
    | none => .ok (delegation.stake, 0)
    | some entryAtActivation => do
        let currentEffective ← (activationWalkThrowing rate delegation targetEpoch history).exec
          { prevEpoch := delegation.activationEpoch, prevCluster := entryAtActivation,
            currentEffective := 0 }
        let clampedEffective := clampToStake currentEffective delegation.stake
        return (clampedEffective, delegation.stake - clampedEffective)

/-- Source: `state/activation.ts`, `computeStakeActivation`, where `BigInt` may throw. -/
def computeStakeActivationThrowing : Result StakeActivation := do
  let (effective, activating) ← stakeAndActivatingThrowing rate delegation targetEpoch history
  if targetEpoch < delegation.deactivationEpoch then return withStatus effective activating 0
  else if targetEpoch = delegation.deactivationEpoch then return withStatus effective 0 effective
  else
    match history delegation.deactivationEpoch with
    | none => return withStatus 0 0 0
    | some entryAtDeactivation => do
        let currentEffective ← (deactivationWalkThrowing rate targetEpoch history).exec
          { prevEpoch := delegation.deactivationEpoch, prevCluster := entryAtDeactivation,
            currentEffective := effective }
        let clampedEffective := clampToStake currentEffective delegation.stake
        return withStatus clampedEffective 0 clampedEffective

end walks

/-! ## The activation in doubles -/

/-- The amount, or one lamport where none is returned. -/
def amountOrOne : Result ℤ → ℤ
  | .ok n => n
  | .error _ => 1

/-- The amounts an epoch moves, in doubles. -/
def doubleAmounts (rate : Double) : PerEpochAmounts where
  newlyEffective := fun remaining cluster =>
    amountOrOne (perEpochAmount rate remaining cluster.activating cluster.effective)
  newlyNotEffective := fun current cluster =>
    amountOrOne (perEpochAmount rate current cluster.deactivating cluster.effective)
  one_le_newlyEffective := by
    intro remaining cluster
    cases h : perEpochAmount rate remaining cluster.activating cluster.effective with
    | error e => exact le_rfl
    | ok n => exact one_le_of_perEpochAmount h
  one_le_newlyNotEffective := by
    intro current cluster
    cases h : perEpochAmount rate current cluster.deactivating cluster.effective with
    | error e => exact le_rfl
    | ok n => exact one_le_of_perEpochAmount h

/-- A cluster's entry of `u64`s. -/
structure StakeHistoryEntry.OnU64s (entry : StakeHistoryEntry) : Prop where
  effective : entry.effective < 2 ^ 64
  activating : entry.activating < 2 ^ 64
  deactivating : entry.deactivating < 2 ^ 64

section agree

variable {ρ : ℚ} {delegation : DelegationInput} {targetEpoch : ℕ} {history : StakeHistoryMap}
  {w w' : Walk}

/-- A walk that goes on looks at an entry of the history. -/
theorem Walk.exists_prevCluster_of_advance {done : Prop} [Decidable done] {currentEffective : ℤ}
    (h : w.advance history done currentEffective = .inl w') :
    ∃ epoch, history epoch = some w'.prevCluster := by
  unfold advance at h
  split at h
  · cases h
  · split at h
    · cases h
    · next next hnext =>
        obtain rfl := Sum.inl.inj h
        exact ⟨_, hnext⟩

@[inherit_doc Walk.exists_prevCluster_of_advance]
theorem exists_prevCluster_of_activationStep {W : PerEpochAmounts}
    (h : activationStep W delegation targetEpoch history w = .inl w') :
    ∃ epoch, history epoch = some w'.prevCluster := by
  unfold activationStep at h
  split at h
  · cases h
  · simp only at h
    split at h
    · cases h
    · exact Walk.exists_prevCluster_of_advance h

@[inherit_doc Walk.exists_prevCluster_of_advance]
theorem exists_prevCluster_of_deactivationStep {W : PerEpochAmounts}
    (h : deactivationStep W targetEpoch history w = .inl w') :
    ∃ epoch, history epoch = some w'.prevCluster := by
  unfold deactivationStep at h
  split at h
  · cases h
  · split at h
    · cases h
    · exact Walk.exists_prevCluster_of_advance h

/-- A walk whose numbers are `u64`s. -/
def Walk.OnU64s (w : Walk) : Prop :=
  0 ≤ w.currentEffective ∧ w.currentEffective < 2 ^ 64 ∧ w.prevCluster.OnU64s

/-- The activation steps agree. -/
theorem activationStepThrowing_eq (hρ : Moderate 64 ρ) (hw : w.OnU64s)
    (hle : w.currentEffective ≤ delegation.stake) (hstake : delegation.stake < 2 ^ 64) :
    activationStepThrowing (.ofRat ρ) delegation targetEpoch history w =
      (activationStep (doubleAmounts (.ofRat ρ)) delegation targetEpoch history w).map id .ok := by
  obtain ⟨h0, -, hcluster⟩ := hw
  unfold activationStepThrowing activationStep
  split
  · rfl
  · next hne =>
      have hremaining : 0 ≤ delegation.stake - w.currentEffective := by omega
      have hremaining' : delegation.stake - w.currentEffective < 2 ^ 64 := by omega
      obtain ⟨n, hn, -⟩ := perEpochAmount_eq_ok hremaining hremaining' (Nat.pos_of_ne_zero hne)
        hcluster.activating hcluster.effective hρ
      simp only [doubleAmounts, hn, amountOrOne]
      split <;> rfl

/-- The deactivation steps agree. -/
theorem deactivationStepThrowing_eq (hρ : Moderate 64 ρ) (hw : w.OnU64s) :
    deactivationStepThrowing (.ofRat ρ) targetEpoch history w =
      (deactivationStep (doubleAmounts (.ofRat ρ)) targetEpoch history w).map id .ok := by
  obtain ⟨h0, hlt, hcluster⟩ := hw
  unfold deactivationStepThrowing deactivationStep
  split
  · rfl
  · next hne =>
      obtain ⟨n, hn, -⟩ := perEpochAmount_eq_ok h0 hlt (Nat.pos_of_ne_zero hne)
        hcluster.deactivating hcluster.effective hρ
      simp only [stillEffective, doubleAmounts, hn, amountOrOne]
      split_ifs <;> rfl

/-- Two loops whose steps agree while an invariant is kept. -/
theorem exec_eq_ok_of_step_eq {L : Loop Walk (Result ℤ)} {M : Loop Walk ℤ} {I : Walk → Prop}
    (hstep : ∀ w, I w → L.body w = (M.body w).map id .ok)
    (hkeep : ∀ w w', I w → M.body w = .inl w' → I w') (hw : I w) : L.exec w = .ok (M.exec w) := by
  apply Loop.exec_rel (L := L) (M := M) (I := I) (R := fun r z => r = Except.ok z) _ _ hw
  · intro w w' hw h
    rw [hstep w hw] at h
    cases hbody : M.body w with
    | inl w'' =>
        rw [hbody] at h
        obtain rfl : w'' = w' := Sum.inl.inj h
        exact ⟨rfl, hkeep w w'' hw hbody⟩
    | inr z =>
        rw [hbody] at h
        cases h
  · intro w r hw h
    rw [hstep w hw] at h
    cases hbody : M.body w with
    | inl w'' =>
        rw [hbody] at h
        cases h
    | inr z =>
        rw [hbody] at h
        rw [M.exec_of_inr hbody]
        exact (Sum.inr.inj h).symm

/-- The activation walk in doubles. -/
theorem activationWalkThrowing_exec (hρ : Moderate 64 ρ) (hstake : delegation.stake < 2 ^ 64)
    (hhistory : ∀ epoch entry, history epoch = some entry → entry.OnU64s) (hw : w.OnU64s)
    (hle : w.currentEffective ≤ delegation.stake) :
    (activationWalkThrowing (.ofRat ρ) delegation targetEpoch history).exec w =
      .ok ((activationWalk (doubleAmounts (.ofRat ρ)) delegation targetEpoch history).exec w) := by
  apply exec_eq_ok_of_step_eq
    (I := fun w => w.OnU64s ∧ w.currentEffective ≤ delegation.stake) _ _ ⟨hw, hle⟩
  · intro w hw
    exact activationStepThrowing_eq hρ hw.1 hw.2 hstake
  · rintro w w' ⟨⟨h0, -, -⟩, -⟩ h
    have hcur := activationStep_eq_inl h
    obtain ⟨epoch, hentry⟩ := exists_prevCluster_of_activationStep h
    exact ⟨⟨by omega, by omega, hhistory epoch _ hentry⟩, by omega⟩

/-- The deactivation walk in doubles. -/
theorem deactivationWalkThrowing_exec (hρ : Moderate 64 ρ)
    (hhistory : ∀ epoch entry, history epoch = some entry → entry.OnU64s) (hw : w.OnU64s) :
    (deactivationWalkThrowing (.ofRat ρ) targetEpoch history).exec w =
      .ok ((deactivationWalk (doubleAmounts (.ofRat ρ)) targetEpoch history).exec w) := by
  apply exec_eq_ok_of_step_eq (I := Walk.OnU64s) _ _ hw
  · intro w hw
    exact deactivationStepThrowing_eq hρ hw
  · rintro w w' ⟨h0, hlt, -⟩ h
    have hcur := deactivationStep_eq_inl h
    obtain ⟨epoch, hentry⟩ := exists_prevCluster_of_deactivationStep h
    exact ⟨by omega, by omega, hhistory epoch _ hentry⟩

/-- What is effective and activating, in doubles. -/
theorem stakeAndActivatingThrowing_eq_ok (hρ : Moderate 64 ρ) (hstake : delegation.stake < 2 ^ 64)
    (hhistory : ∀ epoch entry, history epoch = some entry → entry.OnU64s) :
    stakeAndActivatingThrowing (.ofRat ρ) delegation targetEpoch history =
      .ok (stakeAndActivating (doubleAmounts (.ofRat ρ)) delegation targetEpoch history) := by
  unfold stakeAndActivatingThrowing stakeAndActivating
  split_ifs
  case neg =>
    cases hentry : history delegation.activationEpoch with
    | none => rfl
    | some entry =>
        have hexec : (activationWalkThrowing (.ofRat ρ) delegation targetEpoch history).exec
            { prevEpoch := delegation.activationEpoch, prevCluster := entry,
              currentEffective := 0 } = _ :=
          activationWalkThrowing_exec hρ hstake hhistory
            ⟨le_rfl, by norm_num, hhistory _ _ hentry⟩ (by simp)
        simp only [hexec]
        rfl
  all_goals rfl

/-- The activation in doubles is that of the amounts in doubles. -/
theorem computeStakeActivationThrowing_eq_ok (hρ : Moderate 64 ρ)
    (hstake : delegation.stake < 2 ^ 64)
    (hhistory : ∀ epoch entry, history epoch = some entry → entry.OnU64s) :
    computeStakeActivationThrowing (.ofRat ρ) delegation targetEpoch history =
      .ok (computeStakeActivation (doubleAmounts (.ofRat ρ)) delegation targetEpoch history) := by
  have hactivation : stakeAndActivatingThrowing (.ofRat ρ) delegation targetEpoch history = _ :=
    stakeAndActivatingThrowing_eq_ok hρ hstake hhistory
  obtain ⟨h0, hle, -⟩ := stakeAndActivating_spec (doubleAmounts (.ofRat ρ)) delegation targetEpoch
    history
  unfold computeStakeActivationThrowing computeStakeActivation
  rw [hactivation]
  generalize stakeAndActivating (doubleAmounts (.ofRat ρ)) delegation targetEpoch history = p
    at h0 hle
  obtain ⟨effective, activating⟩ := p
  simp only [bind, Except.bind]
  split_ifs
  case neg =>
    cases hentry : history delegation.deactivationEpoch with
    | none => rfl
    | some entry =>
        have hexec : (deactivationWalkThrowing (.ofRat ρ) targetEpoch history).exec
            { prevEpoch := delegation.deactivationEpoch, prevCluster := entry,
              currentEffective := effective } = _ :=
          deactivationWalkThrowing_exec hρ hhistory
            ⟨h0, hle.trans_lt (by exact_mod_cast hstake), hhistory _ _ hentry⟩
        simp only [hexec]
        rfl
  all_goals rfl

/-- An amount close to the exact one. -/
def CloseTo (ρ : ℚ) (amount : ℤ) (moving effective : ℕ) (n : ℤ) : Prop :=
  |(n : ℚ) - (⌊exactAmount ρ amount moving effective⌋ ⊔ 1 : ℤ)| <
    exactAmount ρ amount moving effective / 2 ^ 49 + 1

/-- The amounts in doubles are close to the exact ones. -/
theorem closeTo_perEpochAmount (hρ : Moderate 64 ρ) {amount : ℤ} {moving effective : ℕ}
    (h0 : 0 ≤ amount) (hlt : amount < 2 ^ 64) (hmoving : 0 < moving) (hmoving' : moving < 2 ^ 64)
    (heffective : effective < 2 ^ 64) :
    CloseTo ρ amount moving effective
      (amountOrOne (perEpochAmount (.ofRat ρ) amount moving effective)) := by
  obtain ⟨n, hn, -, herr⟩ := perEpochAmount_eq_ok h0 hlt hmoving hmoving' heffective hρ
  rw [hn]
  exact herr

/-- **The activation in doubles.** For a rate within reason there are amounts, each one lamport at
least and close to the exact one, such that for all `u64`s the code does not throw and returns what
`computeStakeActivation` returns for them. -/
theorem exists_perEpochAmounts (hρ : Moderate 64 ρ) :
    ∃ W : PerEpochAmounts,
      (∀ remaining : ℤ, ∀ cluster : StakeHistoryEntry, 0 ≤ remaining → remaining < 2 ^ 64 →
        cluster.OnU64s → 0 < cluster.activating →
        CloseTo ρ remaining cluster.activating cluster.effective
          (W.newlyEffective remaining cluster)) ∧
      (∀ current : ℤ, ∀ cluster : StakeHistoryEntry, 0 ≤ current → current < 2 ^ 64 →
        cluster.OnU64s → 0 < cluster.deactivating →
        CloseTo ρ current cluster.deactivating cluster.effective
          (W.newlyNotEffective current cluster)) ∧
      ∀ delegation targetEpoch history, delegation.stake < 2 ^ 64 →
        (∀ epoch entry, history epoch = some entry → entry.OnU64s) →
        computeStakeActivationThrowing (.ofRat ρ) delegation targetEpoch history =
          .ok (computeStakeActivation W delegation targetEpoch history) := by
  refine ⟨doubleAmounts (.ofRat ρ), ?_, ?_, ?_⟩
  · intro remaining cluster h0 hlt hcluster hpos
    exact closeTo_perEpochAmount hρ h0 hlt hpos hcluster.activating hcluster.effective
  · intro current cluster h0 hlt hcluster hpos
    exact closeTo_perEpochAmount hρ h0 hlt hpos hcluster.deactivating hcluster.effective
  · intro delegation targetEpoch history hstake hhistory
    exact computeStakeActivationThrowing_eq_ok hρ hstake hhistory

end agree

/-! ### Two epochs of a warm-up -/

/-- A hundred million SOL delegated at epoch 700. -/
def warmingDelegation : DelegationInput :=
  { stake := 10 ^ 17, activationEpoch := 700, deactivationEpoch := u64Max }

/-- A cluster of four hundred million SOL, in which it is all that activates. -/
def warmingHistory : StakeHistoryMap := fun epoch =>
  if epoch = 700 then
    some { effective := 4 * 10 ^ 17, activating := 10 ^ 17, deactivating := 0 }
  else if epoch = 701 then
    some { effective := 436 * 10 ^ 15, activating := 64 * 10 ^ 15, deactivating := 0 }
  else none

theorem onU64s_of_warmingHistory (epoch : ℕ) (entry : StakeHistoryEntry)
    (h : warmingHistory epoch = some entry) : entry.OnU64s := by
  unfold warmingHistory at h
  split_ifs at h <;> obtain rfl := Option.some.inj h <;>
    exact ⟨by norm_num, by norm_num, by norm_num⟩

/-- At the rate of the mainnet: what the code returns after two epochs is what the amounts close to
the exact ones give. -/
theorem warming_inDoubles :
    computeStakeActivationThrowing (.ofRat (9 / 100)) warmingDelegation 702 warmingHistory =
        .ok (withStatus 75240000000000000 24760000000000000 0) ∧
      ∃ W : PerEpochAmounts, computeStakeActivation W warmingDelegation 702 warmingHistory =
        withStatus 75240000000000000 24760000000000000 0 := by
  have hrun : computeStakeActivationThrowing (.ofRat (9 / 100)) warmingDelegation 702
      warmingHistory = .ok (withStatus 75240000000000000 24760000000000000 0) := by decide +kernel
  have hρ : Moderate 64 (9 / 100 : ℚ) := Or.inr ⟨by norm_num, by norm_num⟩
  obtain ⟨W, -, -, hall⟩ := exists_perEpochAmounts hρ
  have hsame := hall warmingDelegation 702 warmingHistory (by decide) onU64s_of_warmingHistory
  exact ⟨hrun, W, Except.ok.inj (hsame.symm.trans hrun)⟩

end GuardianStake.Solana
