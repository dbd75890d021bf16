import GuardianStake.Found.Loop

/-!
# Stake activation

`state/activation.ts`: how much of a delegation is effective, activating or deactivating at an
epoch, from the cluster's stake history. The amount an epoch moves is computed in floating point;
`PerEpochAmounts` stands for any such computation whose result is at least one lamport.

* `activationWalk`, `deactivationWalk` — the two `for (;;)` walks over the history, with the stake
  still to move as their variant.
* `activationWalk_exec_mem`, `deactivationWalk_exec_mem` — both stay between zero and the stake.
* `computeStakeActivation_accounted` — **activation accounting**: termination, bounds, and what
  each status says about the three amounts.
* `computeStakeActivation_inactive` — why a position can be inactive.
-/

namespace GuardianStake.Solana

open Found

/-! ## The code -/

/-- Source: `state/constants.ts`, `U64_MAX`. -/
def u64Max : ℕ := 2 ^ 64 - 1

/-- Source: `state/activation.ts`, `StakePositionStatus`. -/
inductive StakePositionStatus
  | active
  | activating
  | deactivating
  | inactive
  deriving DecidableEq, Repr

/-- Source: `state/activation.ts`, `StakeHistoryEntry`. -/
structure StakeHistoryEntry where
  effective : ℕ
  activating : ℕ
  deactivating : ℕ
  deriving DecidableEq, Repr

/-- Source: `state/activation.ts`, `StakeHistoryMap`. A missing epoch is pruned. -/
abbrev StakeHistoryMap := ℕ → Option StakeHistoryEntry

/-- Source: `state/activation.ts`, `DelegationInput`. The fields are decoded from `u64`s. -/
structure DelegationInput where
  stake : ℕ
  activationEpoch : ℕ
  deactivationEpoch : ℕ
  deriving DecidableEq, Repr

/-- Source: `state/activation.ts`, `StakeActivation`. -/
structure StakeActivation where
  effective : ℤ
  activating : ℤ
  deactivating : ℤ
  status : StakePositionStatus
  deriving DecidableEq, Repr

/-- The amounts one epoch moves, `BigInt(Math.max(1, Math.trunc(weight * cluster)))`, as functions
of the amount at hand and the cluster's entry; the rate is fixed. -/
structure PerEpochAmounts where
  newlyEffective : (remainingActivating : ℤ) → (prevCluster : StakeHistoryEntry) → ℤ
  newlyNotEffective : (currentEffective : ℤ) → (prevCluster : StakeHistoryEntry) → ℤ
  one_le_newlyEffective : ∀ remaining cluster, 1 ≤ newlyEffective remaining cluster
  one_le_newlyNotEffective : ∀ current cluster, 1 ≤ newlyNotEffective current cluster

/-- Source: `state/activation.ts`, `clampToStake`. -/
def clampToStake (amount stake : ℤ) : ℤ :=
  if amount < 0 then 0 else if stake < amount then stake else amount

/-- Source: `state/activation.ts`, `deriveStatus`. -/
def deriveStatus (effective activating deactivating : ℤ) : StakePositionStatus :=
  if 0 < deactivating then .deactivating
  else if 0 < activating then .activating
  else if 0 < effective then .active
  else .inactive

section deriveStatus

variable (effective activating deactivating : ℤ)

theorem deriveStatus_eq_deactivating :
    deriveStatus effective activating deactivating = .deactivating ↔ 0 < deactivating := by
  unfold deriveStatus
  split_ifs <;> simp_all

theorem deriveStatus_eq_activating :
    deriveStatus effective activating deactivating = .activating ↔
      deactivating ≤ 0 ∧ 0 < activating := by
  unfold deriveStatus
  split_ifs <;> simp_all

theorem deriveStatus_eq_active :
    deriveStatus effective activating deactivating = .active ↔
      deactivating ≤ 0 ∧ activating ≤ 0 ∧ 0 < effective := by
  unfold deriveStatus
  split_ifs <;> simp_all

theorem deriveStatus_eq_inactive :
    deriveStatus effective activating deactivating = .inactive ↔
      deactivating ≤ 0 ∧ activating ≤ 0 ∧ effective ≤ 0 := by
  unfold deriveStatus
  split_ifs <;> simp_all

end deriveStatus

/-- Source: `state/activation.ts`, `withStatus`. -/
def withStatus (effective activating deactivating : ℤ) : StakeActivation :=
  { effective, activating, deactivating, status := deriveStatus effective activating deactivating }

/-- The variables of a walk. -/
structure Walk where
  prevEpoch : ℕ
  prevCluster : StakeHistoryEntry
  currentEffective : ℤ
  deriving DecidableEq, Repr

/-- The rest of an iteration once the amount has moved: leave at `done`, or where the history
ends, or go on with the next epoch. -/
def Walk.advance (w : Walk) (history : StakeHistoryMap) (done : Prop) [Decidable done]
    (currentEffective : ℤ) : Walk ⊕ ℤ :=
  if done then .inr currentEffective
  else
    match history (w.prevEpoch + 1) with
    | none => .inr currentEffective
    | some next =>
        .inl { prevEpoch := w.prevEpoch + 1, prevCluster := next, currentEffective }

theorem Walk.advance_eq_inl {w w' : Walk} {history : StakeHistoryMap} {done : Prop}
    [Decidable done] {currentEffective : ℤ}
    (h : w.advance history done currentEffective = .inl w') :
    w'.currentEffective = currentEffective := by
  unfold advance at h
  split at h
  · cases h
  · split at h
    · cases h
    · obtain rfl := Sum.inl.inj h
      rfl

theorem Walk.advance_eq_inr {w : Walk} {history : StakeHistoryMap} {done : Prop}
    [Decidable done] {currentEffective r : ℤ}
    (h : w.advance history done currentEffective = .inr r) : r = currentEffective := by
  unfold advance at h
  split at h
  · exact (Sum.inr.inj h).symm
  · split at h
    · exact (Sum.inr.inj h).symm
    · cases h

section walks

variable (W : PerEpochAmounts) (delegation : DelegationInput) (targetEpoch : ℕ)
  (history : StakeHistoryMap)

/-- One iteration of the loop of `stakeAndActivating`. -/
def activationStep (w : Walk) : Walk ⊕ ℤ :=
  if w.prevCluster.activating = 0 then .inr w.currentEffective
  else
    let remainingActivating := delegation.stake - w.currentEffective
    let currentEffective := w.currentEffective + W.newlyEffective remainingActivating w.prevCluster
    if delegation.stake ≤ currentEffective then .inr delegation.stake
    else
      w.advance history
        (targetEpoch ≤ w.prevEpoch + 1 ∨ delegation.deactivationEpoch ≤ w.prevEpoch + 1)
        currentEffective

/-- What one epoch leaves effective. -/
def stillEffective (w : Walk) : ℤ :=
  let newlyNotEffective := W.newlyNotEffective w.currentEffective w.prevCluster
  if newlyNotEffective < w.currentEffective then w.currentEffective - newlyNotEffective else 0

/-- One iteration of the loop of `computeStakeActivation`. -/
def deactivationStep (w : Walk) : Walk ⊕ ℤ :=
  if w.prevCluster.deactivating = 0 then .inr w.currentEffective
  else if stillEffective W w = 0 then .inr (stillEffective W w)
  else w.advance history (targetEpoch ≤ w.prevEpoch + 1) (stillEffective W w)

variable {W delegation targetEpoch history}

/-- What an activation step that goes on does: the amount grows and stays short of the stake. -/
theorem activationStep_eq_inl {w w' : Walk}
    (h : activationStep W delegation targetEpoch history w = .inl w') :
    w.currentEffective < w'.currentEffective ∧ w'.currentEffective < delegation.stake := by
  have hone := W.one_le_newlyEffective (delegation.stake - w.currentEffective) w.prevCluster
  unfold activationStep at h
  split at h
  · cases h
  · simp only at h
    split at h
    · cases h
    · have hcur := Walk.advance_eq_inl h
      omega

/-- What an activation step that leaves returns: the amount it had, the stake, or an amount grown
short of the stake. -/
theorem activationStep_eq_inr {w : Walk} {r : ℤ}
    (h : activationStep W delegation targetEpoch history w = .inr r) :
    r = w.currentEffective ∨ r = delegation.stake ∨
      (w.currentEffective < r ∧ r < delegation.stake) := by
  have hone := W.one_le_newlyEffective (delegation.stake - w.currentEffective) w.prevCluster
  unfold activationStep at h
  split at h
  · exact Or.inl (Sum.inr.inj h).symm
  · simp only at h
    split at h
    · exact Or.inr (Or.inl (Sum.inr.inj h).symm)
    · have hcur := Walk.advance_eq_inr h
      omega

/-- One epoch leaves nothing, or less than there was. -/
theorem stillEffective_cases (w : Walk) :
    stillEffective W w = 0 ∨
      (0 < stillEffective W w ∧ stillEffective W w < w.currentEffective) := by
  have hone := W.one_le_newlyNotEffective w.currentEffective w.prevCluster
  simp only [stillEffective]
  split <;> omega

/-- What a deactivation step that goes on does: the amount shrinks and stays positive. -/
theorem deactivationStep_eq_inl {w w' : Walk}
    (h : deactivationStep W targetEpoch history w = .inl w') :
    0 < w'.currentEffective ∧ w'.currentEffective < w.currentEffective := by
  have hcases := stillEffective_cases (W := W) w
  unfold deactivationStep at h
  split at h
  · cases h
  · split at h
    · cases h
    · have hcur := Walk.advance_eq_inl h
      omega

/-- What a deactivation step that leaves returns: the amount it had, nothing, or a smaller
amount. -/
theorem deactivationStep_eq_inr {w : Walk} {r : ℤ}
    (h : deactivationStep W targetEpoch history w = .inr r) :
    r = w.currentEffective ∨ r = 0 ∨ (0 < r ∧ r < w.currentEffective) := by
  have hcases := stillEffective_cases (W := W) w
  unfold deactivationStep at h
  split at h
  · exact Or.inl (Sum.inr.inj h).symm
  · split at h
    · have hr := (Sum.inr.inj h).symm
      omega
    · have hcur := Walk.advance_eq_inr h
      omega

variable (W delegation targetEpoch history)

/-- The activation walk; what is left to activate shrinks. -/
def activationWalk : Loop Walk ℤ where
  body := activationStep W delegation targetEpoch history
  rank := fun w => (delegation.stake - w.currentEffective).toNat
  rank_lt := by
    intro w w' h
    have hstep := activationStep_eq_inl h
    omega

/-- The deactivation walk; what is left to deactivate shrinks. -/
def deactivationWalk : Loop Walk ℤ where
  body := deactivationStep W targetEpoch history
  rank := fun w => w.currentEffective.toNat
  rank_lt := by
    intro w w' h
    have hstep := deactivationStep_eq_inl h
    omega

/-- Source: `state/activation.ts`, `stakeAndActivating`: the pair (effective, activating). -/
def stakeAndActivating : ℤ × ℤ :=
  if delegation.activationEpoch = u64Max then (delegation.stake, 0)
  else if delegation.activationEpoch = delegation.deactivationEpoch then (0, 0)
  else if targetEpoch = delegation.activationEpoch then (0, delegation.stake)
  else if targetEpoch < delegation.activationEpoch then (0, 0)
  else
    match history delegation.activationEpoch with
    | none => (delegation.stake, 0)
    | some entryAtActivation =>
        let currentEffective := (activationWalk W delegation targetEpoch history).exec
          { prevEpoch := delegation.activationEpoch, prevCluster := entryAtActivation,
            currentEffective := 0 }
        let clampedEffective := clampToStake currentEffective delegation.stake
        (clampedEffective, delegation.stake - clampedEffective)

/-- Source: `state/activation.ts`, `computeStakeActivation`. -/
def computeStakeActivation : StakeActivation :=
  let (effective, activating) := stakeAndActivating W delegation targetEpoch history
  if targetEpoch < delegation.deactivationEpoch then withStatus effective activating 0
  else if targetEpoch = delegation.deactivationEpoch then withStatus effective 0 effective
  else
    match history delegation.deactivationEpoch with
    | none => withStatus 0 0 0
    | some entryAtDeactivation =>
        let currentEffective := (deactivationWalk W targetEpoch history).exec
          { prevEpoch := delegation.deactivationEpoch, prevCluster := entryAtDeactivation,
            currentEffective := effective }
        let clampedEffective := clampToStake currentEffective delegation.stake
        withStatus clampedEffective 0 clampedEffective

end walks

/-! ## The walks stay within the stake -/

section bounds

variable {W : PerEpochAmounts} {delegation : DelegationInput} {targetEpoch : ℕ}
  {history : StakeHistoryMap}

/-- The walk's effective amount is between zero and the stake. -/
def Walk.Within (stake : ℤ) (w : Walk) : Prop :=
  0 ≤ w.currentEffective ∧ w.currentEffective ≤ stake

/-- The activation walk leaves with an amount between zero and the stake. -/
theorem activationWalk_exec_mem (W : PerEpochAmounts) (targetEpoch : ℕ)
    (history : StakeHistoryMap) {w : Walk} (hw : w.Within delegation.stake) :
    0 ≤ (activationWalk W delegation targetEpoch history).exec w ∧
      (activationWalk W delegation targetEpoch history).exec w ≤ delegation.stake := by
  refine (activationWalk W delegation targetEpoch history).exec_induction
    (I := Walk.Within delegation.stake) (Q := fun r => 0 ≤ r ∧ r ≤ delegation.stake) ?_ ?_ hw
  · rintro w w' ⟨h0, -⟩ h
    have hstep := activationStep_eq_inl h
    exact ⟨by omega, by omega⟩
  · rintro w r ⟨h0, hle⟩ h
    have hstep := activationStep_eq_inr h
    exact ⟨by omega, by omega⟩

/-- The deactivation walk leaves with an amount between zero and the one it started with. -/
theorem deactivationWalk_exec_mem (W : PerEpochAmounts) (targetEpoch : ℕ)
    (history : StakeHistoryMap) {stake : ℤ} {w : Walk} (hw : w.Within stake) :
    0 ≤ (deactivationWalk W targetEpoch history).exec w ∧
      (deactivationWalk W targetEpoch history).exec w ≤ stake := by
  refine (deactivationWalk W targetEpoch history).exec_induction
    (I := Walk.Within stake) (Q := fun r => 0 ≤ r ∧ r ≤ stake) ?_ ?_ hw
  · rintro w w' ⟨h0, hle⟩ h
    have hstep := deactivationStep_eq_inl h
    exact ⟨by omega, by omega⟩
  · rintro w r ⟨h0, hle⟩ h
    have hstep := deactivationStep_eq_inr h
    exact ⟨by omega, by omega⟩

/-- Within the stake the clamp changes nothing. -/
theorem clampToStake_of_mem {amount stake : ℤ} (h0 : 0 ≤ amount) (hle : amount ≤ stake) :
    clampToStake amount stake = amount := by
  rw [clampToStake, if_neg (not_lt.mpr h0), if_neg (not_lt.mpr hle)]

/-- The activating side: within the stake, and either the whole stake is accounted for or none of
it, as the activation is still to come or was called off in its own epoch. -/
theorem stakeAndActivating_spec (W : PerEpochAmounts) (delegation : DelegationInput)
    (targetEpoch : ℕ) (history : StakeHistoryMap) :
    let p := stakeAndActivating W delegation targetEpoch history
    0 ≤ p.1 ∧ p.1 ≤ delegation.stake ∧ 0 ≤ p.2 ∧
      (p.1 + p.2 = delegation.stake ∨
        ((p.1 = 0 ∧ p.2 = 0) ∧ (targetEpoch < delegation.activationEpoch ∨
          delegation.activationEpoch = delegation.deactivationEpoch))) := by
  intro p
  have hp : p = stakeAndActivating W delegation targetEpoch history := rfl
  unfold stakeAndActivating at hp
  split at hp
  · simp [hp]
  split at hp
  · next hsame => simp [hp, hsame]
  split at hp
  · simp [hp]
  split at hp
  · next hlt => simp [hp, hlt]
  split at hp
  · simp [hp]
  · next entry _ =>
      -- only here the walk has a say
      let w : Walk :=
        { prevEpoch := delegation.activationEpoch, prevCluster := entry, currentEffective := 0 }
      have hw : w.Within delegation.stake := ⟨le_rfl, by simp [w]⟩
      obtain ⟨h0, hle⟩ := activationWalk_exec_mem W targetEpoch history hw
      simp only [w] at h0 hle
      simp only [clampToStake_of_mem h0 hle] at hp
      rw [hp]
      exact ⟨h0, hle, by simpa using hle, Or.inl (by ring)⟩

end bounds

/-! ## Activation accounting -/

/-- What the three amounts and the status of a position say about each other. -/
structure Accounted (delegation : DelegationInput) (targetEpoch : ℕ) (a : StakeActivation) :
    Prop where
  effective_nonneg : 0 ≤ a.effective
  effective_le : a.effective ≤ delegation.stake
  /-- Before the deactivation epoch nothing deactivates, and the stake is accounted for in whole
  or not at all. -/
  before : targetEpoch < delegation.deactivationEpoch → a.deactivating = 0 ∧
    (a.effective + a.activating = delegation.stake ∨ (a.effective = 0 ∧ a.activating = 0))
  /-- From the deactivation epoch on nothing activates, and what is effective deactivates. -/
  after : delegation.deactivationEpoch ≤ targetEpoch → a.activating = 0 ∧
    a.deactivating = a.effective
  active : a.status = .active → a.effective = delegation.stake
  activating : a.status = .activating →
    a.effective + a.activating = delegation.stake ∧ 0 < a.activating
  deactivating : a.status = .deactivating → 0 < a.effective ∧ a.effective = a.deactivating
  inactive : a.status = .inactive → a.effective = 0 ∧ a.activating = 0 ∧ a.deactivating = 0

/-- Amounts of the first kind, with their derived status. -/
theorem accounted_before {delegation : DelegationInput} {targetEpoch : ℕ} {effective activating : ℤ}
    (hlt : targetEpoch < delegation.deactivationEpoch) (h0 : 0 ≤ effective)
    (hle : effective ≤ delegation.stake) (hact : 0 ≤ activating)
    (hsum : effective + activating = delegation.stake ∨ (effective = 0 ∧ activating = 0)) :
    Accounted delegation targetEpoch (withStatus effective activating 0) := by
  refine ⟨h0, hle, fun _ => ⟨rfl, hsum⟩, fun h => absurd h (not_le.mpr hlt), ?_, ?_, ?_, ?_⟩
  · intro hstatus
    have hpos := (deriveStatus_eq_active effective activating 0).mp hstatus
    simp only [withStatus]
    omega
  · intro hstatus
    have hpos := (deriveStatus_eq_activating effective activating 0).mp hstatus
    simp only [withStatus]
    omega
  · intro hstatus
    exact absurd ((deriveStatus_eq_deactivating effective activating 0).mp hstatus) (lt_irrefl 0)
  · intro hstatus
    obtain ⟨-, ha, he⟩ := (deriveStatus_eq_inactive effective activating 0).mp hstatus
    exact ⟨le_antisymm he h0, le_antisymm ha hact, rfl⟩

/-- Amounts of the second kind, with their derived status. -/
theorem accounted_after {delegation : DelegationInput} {targetEpoch : ℕ} {effective : ℤ}
    (hge : delegation.deactivationEpoch ≤ targetEpoch) (h0 : 0 ≤ effective)
    (hle : effective ≤ delegation.stake) :
    Accounted delegation targetEpoch (withStatus effective 0 effective) := by
  refine ⟨h0, hle, fun h => absurd hge (not_le.mpr h), fun _ => ⟨rfl, rfl⟩, ?_, ?_, ?_, ?_⟩
  · intro hstatus
    have hpos := (deriveStatus_eq_active effective 0 effective).mp hstatus
    omega
  · intro hstatus
    exact absurd ((deriveStatus_eq_activating effective 0 effective).mp hstatus).2 (lt_irrefl 0)
  · intro hstatus
    exact ⟨(deriveStatus_eq_deactivating effective 0 effective).mp hstatus, rfl⟩
  · intro hstatus
    obtain ⟨-, -, he⟩ := (deriveStatus_eq_inactive effective 0 effective).mp hstatus
    exact ⟨le_antisymm he h0, rfl, le_antisymm he h0⟩

/-- The status is derived from the amounts. -/
theorem computeStakeActivation_status (W : PerEpochAmounts) (delegation : DelegationInput)
    (targetEpoch : ℕ) (history : StakeHistoryMap) :
    let a := computeStakeActivation W delegation targetEpoch history
    a.status = deriveStatus a.effective a.activating a.deactivating := by
  unfold computeStakeActivation
  simp only
  split
  · rfl
  split
  · rfl
  split
  · rfl
  · rfl

/-- What is computed accounts for the stake. -/
theorem computeStakeActivation_accounts (W : PerEpochAmounts) (delegation : DelegationInput)
    (targetEpoch : ℕ) (history : StakeHistoryMap) :
    Accounted delegation targetEpoch
      (computeStakeActivation W delegation targetEpoch history) := by
  obtain ⟨h0, hle, hact, hsum⟩ := stakeAndActivating_spec W delegation targetEpoch history
  unfold computeStakeActivation
  simp only
  split
  · next hlt => exact accounted_before hlt h0 hle hact (hsum.imp_right And.left)
  split
  · next heq => exact accounted_after heq.ge h0 hle
  · next hlt hne =>
      have hge : delegation.deactivationEpoch ≤ targetEpoch := not_lt.mp hlt
      split
      · exact accounted_after hge le_rfl (by simp)
      · next entry _ =>
          let w : Walk :=
            { prevEpoch := delegation.deactivationEpoch, prevCluster := entry
              currentEffective := (stakeAndActivating W delegation targetEpoch history).1 }
          have hw : w.Within delegation.stake := ⟨h0, hle⟩
          obtain ⟨hw0, hwle⟩ := deactivationWalk_exec_mem W targetEpoch history hw
          rw [clampToStake_of_mem hw0 hwle]
          exact accounted_after hge hw0 hwle

/-- **Activation accounting.** For every delegation, target epoch and history, whatever the
amounts an epoch moves: both walks leave, and the result accounts for the stake. -/
theorem computeStakeActivation_accounted (W : PerEpochAmounts) (delegation : DelegationInput)
    (targetEpoch : ℕ) (history : StakeHistoryMap) :
    (∀ w, Terminates (activationStep W delegation targetEpoch history) w) ∧
      (∀ w, Terminates (deactivationStep W targetEpoch history) w) ∧
      Accounted delegation targetEpoch
        (computeStakeActivation W delegation targetEpoch history) :=
  ⟨(activationWalk W delegation targetEpoch history).terminates,
    (deactivationWalk W targetEpoch history).terminates,
    computeStakeActivation_accounts W delegation targetEpoch history⟩

/-- What is inactive has no stake, is not yet activated, or was deactivated. -/
theorem computeStakeActivation_inactive {W : PerEpochAmounts} {delegation : DelegationInput}
    {targetEpoch : ℕ} {history : StakeHistoryMap}
    (h : (computeStakeActivation W delegation targetEpoch history).status = .inactive) :
    delegation.stake = 0 ∨ targetEpoch < delegation.activationEpoch ∨
      delegation.deactivationEpoch ≤ targetEpoch := by
  rcases le_or_gt delegation.deactivationEpoch targetEpoch with hge | hlt
  · exact Or.inr (Or.inr hge)
  · obtain ⟨h0, -, hact, hsum⟩ := stakeAndActivating_spec W delegation targetEpoch history
    unfold computeStakeActivation at h
    simp only [if_pos hlt, withStatus, deriveStatus_eq_inactive] at h
    obtain ⟨-, ha, he⟩ := h
    rcases hsum with hsum | ⟨-, hepoch | hsame⟩
    · exact Or.inl (by omega)
    · exact Or.inr (Or.inl hepoch)
    · exact Or.inr (Or.inl (hsame ▸ hlt))

end GuardianStake.Solana
