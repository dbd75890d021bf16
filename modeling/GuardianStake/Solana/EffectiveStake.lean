import GuardianStake.Solana.Activation

/-!
# Effective stake over the epochs

`computeStakeActivation` walks the stake history anew for every target epoch. Over a fixed history
the walks for two targets run alike until the one for the earlier target stops, so what is effective
can be compared.

* `activationWalk_exec_mono`, `deactivationWalk_exec_anti` — a walk to a later epoch activates at
  least as much, and deactivates at least as much.
* `stakeAndActivating_eq_of_ge` — the hand-over: from the deactivation epoch on, the activating side
  is the same for every target.
* `computeStakeActivation_risesThenFalls` — **effective stake rises up to the deactivation epoch and
  falls from there on**.
-/

namespace GuardianStake.Solana

open Found

section walks

variable {W : PerEpochAmounts} {delegation : DelegationInput} {history : StakeHistoryMap}
  {t t' : ℕ}

/-- A walk that goes on also goes on where it is asked to leave later. -/
theorem Walk.advance_inl_of_imp {w w' : Walk} {done done' : Prop} [Decidable done]
    [Decidable done'] (himp : done' → done) {currentEffective : ℤ}
    (h : w.advance history done currentEffective = .inl w') :
    w.advance history done' currentEffective = .inl w' := by
  unfold advance at h ⊢
  split at h
  · cases h
  · next hdone => rwa [if_neg (mt himp hdone)]

/-- Where a walk leaves, one asked to leave later leaves too, or goes on with the same amount. -/
theorem Walk.advance_inr_cases {w : Walk} {done done' : Prop} [Decidable done'] {r : ℤ}
    [Decidable done] {currentEffective : ℤ}
    (h : w.advance history done currentEffective = .inr r) :
    w.advance history done' currentEffective = .inr r ∨
      ∃ w', w.advance history done' currentEffective = .inl w' ∧ w'.currentEffective = r := by
  obtain rfl := Walk.advance_eq_inr h
  cases hadv : w.advance history done' r with
  | inl w' => exact Or.inr ⟨w', rfl, Walk.advance_eq_inl hadv⟩
  | inr r' => exact Or.inl (by rw [Walk.advance_eq_inr hadv])

/-- An activation step that goes on does so for a later target too. -/
theorem activationStep_inl_of_le (htt' : t ≤ t') {w w' : Walk}
    (h : activationStep W delegation t history w = .inl w') :
    activationStep W delegation t' history w = .inl w' := by
  unfold activationStep at h ⊢
  split at h
  · cases h
  · next hactivating =>
      rw [if_neg hactivating]
      simp only at h ⊢
      split at h
      · cases h
      · next hstake =>
          rw [if_neg hstake]
          exact Walk.advance_inl_of_imp (Or.imp_left fun hle => htt'.trans hle) h

/-- Where an activation step leaves, the one for another target leaves too, or goes on with the same
amount. -/
theorem activationStep_inr_cases (t' : ℕ) {w : Walk} {r : ℤ}
    (h : activationStep W delegation t history w = .inr r) :
    activationStep W delegation t' history w = .inr r ∨
      ∃ w', activationStep W delegation t' history w = .inl w' ∧ w'.currentEffective = r := by
  unfold activationStep at h ⊢
  split at h
  · next hactivating =>
      rw [if_pos hactivating]
      exact Or.inl h
  · next hactivating =>
      rw [if_neg hactivating]
      simp only at h ⊢
      split at h
      · next hstake =>
          rw [if_pos hstake]
          exact Or.inl h
      · next hstake =>
          rw [if_neg hstake]
          exact Walk.advance_inr_cases h

/-- A deactivation step that goes on does so for a later target too. -/
theorem deactivationStep_inl_of_le (htt' : t ≤ t') {w w' : Walk}
    (h : deactivationStep W t history w = .inl w') :
    deactivationStep W t' history w = .inl w' := by
  unfold deactivationStep at h ⊢
  split at h
  · cases h
  · next hdeactivating =>
      rw [if_neg hdeactivating]
      split at h
      · cases h
      · next hstill =>
          rw [if_neg hstill]
          exact Walk.advance_inl_of_imp (fun hle => htt'.trans hle) h

/-- Where a deactivation step leaves, the one for another target leaves too, or goes on with the
same amount. -/
theorem deactivationStep_inr_cases (t' : ℕ) {w : Walk} {r : ℤ}
    (h : deactivationStep W t history w = .inr r) :
    deactivationStep W t' history w = .inr r ∨
      ∃ w', deactivationStep W t' history w = .inl w' ∧ w'.currentEffective = r := by
  unfold deactivationStep at h ⊢
  split at h
  · next hdeactivating =>
      rw [if_pos hdeactivating]
      exact Or.inl h
  · next hdeactivating =>
      rw [if_neg hdeactivating]
      split at h
      · next hstill =>
          rw [if_pos hstill]
          exact Or.inl h
      · next hstill =>
          rw [if_neg hstill]
          exact Walk.advance_inr_cases h

/-- The activation walk never loses what it starts with. -/
theorem le_activationWalk_exec (W : PerEpochAmounts) (t : ℕ) (history : StakeHistoryMap) {w : Walk}
    (hw : w.currentEffective ≤ delegation.stake) :
    w.currentEffective ≤ (activationWalk W delegation t history).exec w := by
  apply (activationWalk W delegation t history).exec_induction
    (I := fun v => w.currentEffective ≤ v.currentEffective ∧
      v.currentEffective ≤ delegation.stake) (Q := fun r => w.currentEffective ≤ r)
  · rintro v v' ⟨hle, -⟩ h
    have hstep := activationStep_eq_inl h
    exact ⟨by omega, by omega⟩
  · rintro v r ⟨hle, hstake⟩ h
    have hstep := activationStep_eq_inr h
    omega
  · exact ⟨le_rfl, hw⟩

/-- **A walk to a later epoch activates at least as much.** -/
theorem activationWalk_exec_mono (W : PerEpochAmounts) (history : StakeHistoryMap) (htt' : t ≤ t')
    {w : Walk} (hw : w.currentEffective ≤ delegation.stake) :
    (activationWalk W delegation t history).exec w ≤
      (activationWalk W delegation t' history).exec w := by
  apply Loop.exec_rel (L := activationWalk W delegation t history)
    (M := activationWalk W delegation t' history)
    (I := fun v => v.currentEffective ≤ delegation.stake) (R := fun r r' => r ≤ r') _ _ hw
  · intro v v' _ h
    have hstep := activationStep_eq_inl h
    exact ⟨activationStep_inl_of_le htt' h, by omega⟩
  · intro v r hv h
    rcases activationStep_inr_cases t' h with h' | ⟨v', h', rfl⟩
    · rw [Loop.exec_of_inr _ h']
    · rw [Loop.exec_of_inl _ h']
      have hstep := activationStep_eq_inl h'
      exact le_activationWalk_exec W t' history (by omega)

/-- **A walk to a later epoch deactivates at least as much.** -/
theorem deactivationWalk_exec_anti (W : PerEpochAmounts) (history : StakeHistoryMap) (htt' : t ≤ t')
    {w : Walk} (hw : 0 ≤ w.currentEffective) :
    (deactivationWalk W t' history).exec w ≤ (deactivationWalk W t history).exec w := by
  apply Loop.exec_rel (L := deactivationWalk W t history) (M := deactivationWalk W t' history)
    (I := fun v => 0 ≤ v.currentEffective) (R := fun r r' => r' ≤ r) _ _ hw
  · intro v v' _ h
    have hstep := deactivationStep_eq_inl h
    exact ⟨deactivationStep_inl_of_le htt' h, by omega⟩
  · intro v r hv h
    rcases deactivationStep_inr_cases t' h with h' | ⟨v', h', rfl⟩
    · rw [Loop.exec_of_inr _ h']
    · rw [Loop.exec_of_inl _ h']
      have hstep := deactivationStep_eq_inl h'
      exact (deactivationWalk_exec_mem W t' history ⟨by omega, le_rfl⟩).2

end walks

/-! ## The activating side -/

section activating

variable {delegation : DelegationInput} {t t' : ℕ}

/-- Where the walk has a say, its result needs no clamp. -/
theorem clampToStake_activationWalk (W : PerEpochAmounts) (t : ℕ) (history : StakeHistoryMap)
    (prevEpoch : ℕ) (prevCluster : StakeHistoryEntry) :
    clampToStake ((activationWalk W delegation t history).exec
        { prevEpoch, prevCluster, currentEffective := 0 }) delegation.stake =
      (activationWalk W delegation t history).exec
        { prevEpoch, prevCluster, currentEffective := 0 } := by
  let w : Walk := { prevEpoch, prevCluster, currentEffective := 0 }
  have hw : w.Within delegation.stake := ⟨le_rfl, by simp [w]⟩
  obtain ⟨h0, hle⟩ := activationWalk_exec_mem W t history hw
  exact clampToStake_of_mem h0 hle

/-- The activating side grows with the target. -/
theorem stakeAndActivating_mono (W : PerEpochAmounts) (history : StakeHistoryMap) (htt' : t ≤ t') :
    (stakeAndActivating W delegation t history).1 ≤
      (stakeAndActivating W delegation t' history).1 := by
  have h0 := (stakeAndActivating_spec W delegation t' history).1
  rcases le_or_gt t delegation.activationEpoch with hle | hgt
  · -- up to the activation epoch nothing is effective, except where the target plays no part
    unfold stakeAndActivating at h0 ⊢
    split_ifs at h0 ⊢ <;> first | exact le_rfl | exact h0 | omega
  · unfold stakeAndActivating
    split_ifs with hboot hsame
    · exact le_rfl
    · exact le_rfl
    all_goals try omega
    cases history delegation.activationEpoch with
    | none => exact le_rfl
    | some entry =>
        simp only [clampToStake_activationWalk]
        exact activationWalk_exec_mono W history htt' (by simp)

/-- From the deactivation epoch on, an iteration of the activation walk does not look at the
target. -/
theorem activationStep_of_ge (W : PerEpochAmounts) (history : StakeHistoryMap)
    (hge : delegation.deactivationEpoch ≤ t) :
    activationStep W delegation t history =
      activationStep W delegation delegation.deactivationEpoch history := by
  funext w
  have hdone : (t ≤ w.prevEpoch + 1 ∨ delegation.deactivationEpoch ≤ w.prevEpoch + 1) ↔
      (delegation.deactivationEpoch ≤ w.prevEpoch + 1 ∨
        delegation.deactivationEpoch ≤ w.prevEpoch + 1) := by omega
  simp only [activationStep, Walk.advance, hdone]

/-- **The hand-over**: from the deactivation epoch on, the activating side is the same for every
target. -/
theorem stakeAndActivating_eq_of_ge (W : PerEpochAmounts) (history : StakeHistoryMap)
    (h : delegation.activationEpoch = u64Max ∨
      delegation.activationEpoch ≤ delegation.deactivationEpoch)
    (hge : delegation.deactivationEpoch ≤ t) :
    stakeAndActivating W delegation t history =
      stakeAndActivating W delegation delegation.deactivationEpoch history := by
  unfold stakeAndActivating
  split_ifs with hboot hsame
  · rfl
  · rfl
  all_goals try omega
  cases history delegation.activationEpoch with
  | none => rfl
  | some entry =>
      have hexec := Loop.exec_congr (L := activationWalk W delegation t history)
        (M := activationWalk W delegation delegation.deactivationEpoch history)
        (activationStep_of_ge W history hge)
      simp only [hexec]

end activating

/-! ## Rise and fall -/

section effective

variable {delegation : DelegationInput} {t t' : ℕ}

/-- Up to the deactivation epoch, what is effective is the activating side. -/
theorem effective_of_le (W : PerEpochAmounts) (history : StakeHistoryMap)
    (hle : t ≤ delegation.deactivationEpoch) :
    (computeStakeActivation W delegation t history).effective =
      (stakeAndActivating W delegation t history).1 := by
  unfold computeStakeActivation
  simp only
  split
  · rfl
  · rw [if_pos (by omega)]
    rfl

/-- Beyond the deactivation epoch, what is effective is what the deactivation walk leaves. -/
theorem effective_of_gt (W : PerEpochAmounts) (history : StakeHistoryMap)
    (hgt : delegation.deactivationEpoch < t) :
    (computeStakeActivation W delegation t history).effective =
      match history delegation.deactivationEpoch with
      | none => 0
      | some entry => (deactivationWalk W t history).exec
          { prevEpoch := delegation.deactivationEpoch, prevCluster := entry
            currentEffective := (stakeAndActivating W delegation t history).1 } := by
  obtain ⟨h0, hle, -⟩ := stakeAndActivating_spec W delegation t history
  unfold computeStakeActivation
  simp only [if_neg (not_lt.mpr hgt.le), if_neg hgt.ne']
  cases history delegation.deactivationEpoch with
  | none => rfl
  | some entry =>
      let w : Walk :=
        { prevEpoch := delegation.deactivationEpoch, prevCluster := entry
          currentEffective := (stakeAndActivating W delegation t history).1 }
      have hw : w.Within delegation.stake := ⟨h0, hle⟩
      obtain ⟨hw0, hwle⟩ := deactivationWalk_exec_mem W t history hw
      exact clampToStake_of_mem hw0 hwle

/-- **Effective stake rises, then falls.** Over a fixed history, for a bootstrap delegation or one
activated no later than deactivated: up to the deactivation epoch what is effective does not shrink
from one target to a later one, and from there on it does not grow. -/
theorem computeStakeActivation_risesThenFalls (W : PerEpochAmounts) (delegation : DelegationInput)
    (history : StakeHistoryMap)
    (h : delegation.activationEpoch = u64Max ∨
      delegation.activationEpoch ≤ delegation.deactivationEpoch) :
    (∀ t t', t ≤ t' → t' ≤ delegation.deactivationEpoch →
      (computeStakeActivation W delegation t history).effective ≤
        (computeStakeActivation W delegation t' history).effective) ∧
    ∀ t t', delegation.deactivationEpoch ≤ t → t ≤ t' →
      (computeStakeActivation W delegation t' history).effective ≤
        (computeStakeActivation W delegation t history).effective := by
  constructor
  · intro t t' htt' hle
    rw [effective_of_le W history (htt'.trans hle), effective_of_le W history hle]
    exact stakeAndActivating_mono W history htt'
  · intro t t' hge htt'
    rcases hge.eq_or_lt with rfl | hgt
    · -- the walk, if there is one, starts from what is effective at the deactivation epoch
      rcases htt'.eq_or_lt with rfl | hgt
      · exact le_rfl
      obtain ⟨h0, -⟩ :=
        stakeAndActivating_spec W delegation delegation.deactivationEpoch history
      rw [effective_of_gt W history hgt, effective_of_le W history le_rfl,
        stakeAndActivating_eq_of_ge W history h htt']
      cases history delegation.deactivationEpoch with
      | none => exact h0
      | some entry => exact (deactivationWalk_exec_mem W t' history ⟨h0, le_rfl⟩).2
    · rw [effective_of_gt W history hgt, effective_of_gt W history (hgt.trans_le htt'),
        stakeAndActivating_eq_of_ge W history h hge,
        stakeAndActivating_eq_of_ge W history h (hge.trans htt')]
      cases history delegation.deactivationEpoch with
      | none => exact le_rfl
      | some entry =>
          exact deactivationWalk_exec_anti W history htt'
            (stakeAndActivating_spec W delegation delegation.deactivationEpoch history).1

end effective

/-! ### A delegation of a hundred lamports -/

/-- Thirty lamports move in every epoch. -/
def thirtyLamports : PerEpochAmounts where
  newlyEffective := fun _ _ => 30
  newlyNotEffective := fun _ _ => 30
  one_le_newlyEffective := fun _ _ => by decide
  one_le_newlyNotEffective := fun _ _ => by decide

/-- Activated at epoch 10, deactivated at epoch 20. -/
def hundredLamports : DelegationInput :=
  { stake := 100, activationEpoch := 10, deactivationEpoch := 20 }

/-- A cluster on the move from epoch 10 to epoch 30. -/
def busyHistory : StakeHistoryMap := fun epoch =>
  if 10 ≤ epoch ∧ epoch ≤ 30 then
    some { effective := 1000, activating := 1000, deactivating := 1000 }
  else none

/-- It warms up from epoch 10 on and cools down from epoch 20 on. -/
theorem hundredLamports_risesThenFalls :
    (computeStakeActivation thirtyLamports hundredLamports 11 busyHistory).effective ≤
        (computeStakeActivation thirtyLamports hundredLamports 13 busyHistory).effective ∧
      (computeStakeActivation thirtyLamports hundredLamports 23 busyHistory).effective ≤
        (computeStakeActivation thirtyLamports hundredLamports 21 busyHistory).effective := by
  obtain ⟨hrises, hfalls⟩ := computeStakeActivation_risesThenFalls thirtyLamports hundredLamports
    busyHistory (Or.inr (by decide))
  exact ⟨hrises 11 13 (by decide) (by decide), hfalls 21 23 (by decide) (by decide)⟩

example : [10, 11, 13, 20, 21, 23, 24].map (fun epoch =>
    (computeStakeActivation thirtyLamports hundredLamports epoch busyHistory).effective) =
      [0, 30, 90, 100, 70, 10, 0] := by decide +kernel

end GuardianStake.Solana
