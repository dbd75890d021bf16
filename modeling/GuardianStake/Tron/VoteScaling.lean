import GuardianStake.Tron.StakingService

/-!
# Votes scaled to what is frozen

`scaleVotesToFrozen` of `services/staking-service.ts` floors the share of every vote but the last,
which takes the rest. The rest includes what the floors lost.

* `scaledAmounts_concat` — the amounts, with the last one apart.
* `scaleVotesToFrozen_le` — **no vote but the last is enlarged**, and that one by at most the number
  of votes less two.
* `scaleVotesToFrozen_enlarges` — three votes, the last of which is.
-/

namespace GuardianStake.Tron

open Sdk Found

/-- The local `totalVoted` of `getDelegations`. -/
def totalVotedOf (votes : List Vote) : ℤ := (votes.map fun v => votesToSun v.votes).sum

/-- The local `effectiveVoted` of `getDelegations`. -/
def effectiveVotedOf (votes : List Vote) (totalFrozen : ℤ) : ℤ :=
  if totalVotedOf votes ≤ totalFrozen then totalVotedOf votes else totalFrozen

/-- The scaled votes as `getDelegations` computes them. -/
def scaledVotes (votes : List Vote) (totalFrozen : ℤ) : List ScaledVote :=
  scaleVotesToFrozen votes totalFrozen (totalVotedOf votes) (effectiveVotedOf votes totalFrozen)

section

variable {votes : List Vote} {totalFrozen : ℤ}

/-- Scaled votes are those of the votes, in their order. -/
theorem map_srAddress_scaledVotes (votes : List Vote) (totalFrozen : ℤ) :
    (scaledVotes votes totalFrozen).map ScaledVote.srAddress = votes.map Vote.srAddress := by
  unfold scaledVotes scaleVotesToFrozen
  generalize (0 : ℤ) = scaledSoFar
  generalize totalVotedOf votes = totalVoted
  generalize effectiveVotedOf votes totalFrozen = effectiveVoted
  induction votes generalizing scaledSoFar with
  | nil => rfl
  | cons v votes ih => simp [scaleFrom, ih]

/-- The share of a vote when there is too little frozen. -/
def floorShare (totalFrozen totalVoted : ℤ) (v : Vote) : ℤ :=
  votesToSun v.votes * totalFrozen / totalVoted

/-- With enough frozen, the amounts are the votes. -/
theorem scaledAmounts_of_le (h : totalVotedOf votes ≤ totalFrozen) :
    (scaledVotes votes totalFrozen).map ScaledVote.amount =
      votes.map fun v => votesToSun v.votes := by
  unfold scaledVotes scaleVotesToFrozen
  exact scaleFrom_of_le h 0 votes

/-- **The amounts, with the last one apart**: floored shares, and the rest of what is frozen. -/
theorem scaledAmounts_concat {init : List Vote} {last : Vote}
    (hvotes : ∀ v ∈ init, 0 ≤ v.votes) (hfrozen : 0 ≤ totalFrozen)
    (h : totalFrozen < totalVotedOf (init ++ [last])) :
    (scaledVotes (init ++ [last]) totalFrozen).map ScaledVote.amount =
      init.map (floorShare totalFrozen (totalVotedOf (init ++ [last]))) ++
        [totalFrozen -
          (init.map (floorShare totalFrozen (totalVotedOf (init ++ [last])))).sum] := by
  have hfloor : (init.map fun v => (votesToSun v.votes * totalFrozen).tdiv
      (totalVotedOf (init ++ [last]))) =
      init.map (floorShare totalFrozen (totalVotedOf (init ++ [last]))) := by
    apply List.map_congr_left
    intro v hv
    have hraw : 0 ≤ votesToSun v.votes := mul_nonneg (hvotes v hv) (by decide)
    exact Int.tdiv_eq_ediv_of_nonneg (mul_nonneg hraw hfrozen)
  unfold scaledVotes scaleVotesToFrozen
  rw [scaleFrom_of_lt h, handOut_concat, hfloor, effectiveVotedOf, if_neg (not_le.mpr h), zero_add]

/-- A floored share is not negative and not more than the vote. -/
theorem floorShare_mem {totalVoted : ℤ} (hfrozen : 0 ≤ totalFrozen) (h : totalFrozen < totalVoted)
    {v : Vote} (hv : 0 ≤ v.votes) :
    0 ≤ floorShare totalFrozen totalVoted v ∧
      floorShare totalFrozen totalVoted v ≤ votesToSun v.votes := by
  have hraw : 0 ≤ votesToSun v.votes := mul_nonneg hv (by decide)
  have hpos : 0 < totalVoted := hfrozen.trans_lt h
  unfold floorShare
  refine ⟨Int.ediv_nonneg (mul_nonneg hraw hfrozen) hpos.le, ?_⟩
  apply Int.ediv_le_of_le_mul hpos
  exact mul_le_mul_of_nonneg_left h.le hraw

/-- The bounds on the amounts of all votes but the last, and on that of the last. -/
theorem scaledAmounts_le (hvotes : ∀ v ∈ votes, 0 ≤ v.votes) (hfrozen : 0 ≤ totalFrozen) :
    List.Forall₂ (fun v a => 0 ≤ a ∧ a ≤ votesToSun v.votes) votes.dropLast
        ((scaledVotes votes totalFrozen).map ScaledVote.amount).dropLast ∧
      ∀ v ∈ votes.getLast?, ∀ a ∈ ((scaledVotes votes totalFrozen).map ScaledVote.amount).getLast?,
        0 ≤ a ∧ a ≤ votesToSun v.votes + (votes.length - 2 : ℕ) := by
  have hraw : ∀ v ∈ votes, 0 ≤ votesToSun v.votes := fun v hv =>
    mul_nonneg (hvotes v hv) (by decide)
  rcases le_or_gt (totalVotedOf votes) totalFrozen with h | h
  · rw [scaledAmounts_of_le h, ← List.map_dropLast, List.forall₂_map_right_iff, List.forall₂_same,
      List.getLast?_map]
    refine ⟨fun v hv => ⟨hraw v ((List.dropLast_sublist _).subset hv), le_rfl⟩, fun v hv a ha => ?_⟩
    obtain rfl : votesToSun v.votes = a := by simpa [Option.mem_def.mp hv] using ha
    have hnonneg := hraw v (List.mem_of_getLast? hv)
    exact ⟨hnonneg, by omega⟩
  · cases votes using List.reverseRecOn with
    | nil => exact absurd h (not_lt.mpr hfrozen)
    | append_singleton init last =>
        obtain ⟨hinit, hlast⟩ : (∀ v ∈ init, 0 ≤ v.votes) ∧ 0 ≤ last.votes := by
          simpa [or_imp, forall_and] using hvotes
        rw [scaledAmounts_concat hinit hfrozen h, List.dropLast_concat, List.dropLast_concat,
          List.forall₂_map_right_iff, List.forall₂_same, List.getLast?_concat,
          List.getLast?_concat]
        refine ⟨fun v hv => floorShare_mem hfrozen h (hinit v hv), fun v hv a ha => ?_⟩
        obtain rfl := Option.some.inj hv
        obtain rfl := Option.some.inj ha
        have hsum : (init.map fun v => votesToSun v.votes).sum + votesToSun last.votes =
            totalVotedOf (init ++ [last]) := by simp [totalVotedOf]
        have hrest : 0 ≤ votesToSun last.votes := mul_nonneg hlast (by decide)
        have hbelow := sum_floor_le (w := fun v : Vote => votesToSun v.votes) hfrozen
          (hfrozen.trans_lt h) (l := init) (by omega)
        have habove := sub_sum_floor_le (w := fun v : Vote => votesToSun v.votes) hfrozen h hrest
          hsum
        have hcount : (init ++ [last]).length - 2 = init.length - 1 := by
          rw [List.length_append, List.length_singleton, Nat.add_sub_add_right init.length 1 1]
        rw [hcount]
        exact ⟨sub_nonneg.mpr hbelow, habove⟩

/-- **No vote but the last is enlarged.** The amounts come in the order of the votes; none is
negative; each but the last is at most the vote's raw amount; the last exceeds its own by at most
the number of votes less two, so not at all among up to two votes. -/
theorem scaleVotesToFrozen_le (hvotes : ∀ v ∈ votes, 0 ≤ v.votes) (hfrozen : 0 ≤ totalFrozen) :
    (scaledVotes votes totalFrozen).map ScaledVote.srAddress = votes.map Vote.srAddress ∧
      List.Forall₂ (fun v s => 0 ≤ s.amount ∧ s.amount ≤ votesToSun v.votes) votes.dropLast
        (scaledVotes votes totalFrozen).dropLast ∧
      ∀ v ∈ votes.getLast?, ∀ s ∈ (scaledVotes votes totalFrozen).getLast?,
        0 ≤ s.amount ∧ s.amount ≤ votesToSun v.votes + (votes.length - 2 : ℕ) := by
  obtain ⟨hinit, hlast⟩ := scaledAmounts_le hvotes hfrozen
  rw [← List.map_dropLast, List.forall₂_map_right_iff] at hinit
  refine ⟨map_srAddress_scaledVotes votes totalFrozen, hinit, fun v hv s hs => ?_⟩
  apply hlast v hv
  rw [List.getLast?_map]
  exact Option.mem_map_of_mem ScaledVote.amount hs

end

/-! ### Three votes of one TRX -/

/-- One TRX for each of three Super Representatives. -/
def threeVotes : List Vote :=
  [{ srAddress := "TGj1Ej1qRzL9feLTLhjwgxXF4Ct6GTWg2U", votes := 1 },
    { srAddress := "TLyqzVGLV1srkB7dToTAEqgDSfPtXRJZYH", votes := 1 },
    { srAddress := "TZ4UXDV5ZhNW7fb2AMSbgfAEZ7hWsnYS2g", votes := 1 }]

/-- The bounds on them. -/
theorem scaleVotesToFrozen_le_threeVotes :
    List.Forall₂ (fun v s => 0 ≤ s.amount ∧ s.amount ≤ votesToSun v.votes) threeVotes.dropLast
      (scaledVotes threeVotes 2999999).dropLast :=
  (scaleVotesToFrozen_le (by decide) (by decide)).2.1

/-- **A vote that is enlarged**: with one SUN less frozen than voted the first two votes lose one
each, and the last one gains one. -/
theorem scaleVotesToFrozen_enlarges :
    (scaledVotes threeVotes 2999999).map ScaledVote.amount = [999999, 999999, 1000001] ∧
      ¬List.Forall₂ (fun v s => 0 ≤ s.amount ∧ s.amount ≤ votesToSun v.votes) threeVotes
        (scaledVotes threeVotes 2999999) := by
  refine ⟨by decide, fun hall => ?_⟩
  obtain ⟨-, hall⟩ := List.forall₂_cons.mp hall
  obtain ⟨-, hall⟩ := List.forall₂_cons.mp hall
  obtain ⟨hlast, -⟩ := List.forall₂_cons.mp hall
  exact absurd hlast (by decide)

end GuardianStake.Tron
