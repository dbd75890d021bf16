import GuardianStake.Found.SignificantBits
import GuardianStake.Sdk.Js

/-!
# Numbers as doubles

`Number(n)` rounds a `bigint` to 53 significant bits.

* `roundToDouble_eq` — that rounding is the general one.
* `toNumber_eq_int_iff` — **the integers that survive**: those below `2 ^ 1024` that are a multiple
  of a power of two by less than `2 ^ 53`.
* `eq_of_toNumber_isSafeInteger` — what a safe integer was converted from.
* `nonpos_toNumber` — the conversion keeps the sign.
-/

namespace GuardianStake.Sdk

open Found

variable {n m : ℤ}

/-- Rounding to a double is rounding to 53 significant bits. -/
theorem roundToDouble_eq (n : ℕ) : roundToDouble n = roundSig 53 n := by
  unfold roundToDouble
  split
  · next hlt =>
      exact ((roundSig_eq_self_iff (by norm_num)).mpr (representable_of_lt hlt)).symm
  · next hge =>
      have hn : n ≠ 0 := by omega
      have hlog : 53 ≤ n.log2 := (Nat.le_log2 hn).mpr (not_lt.mp hge)
      have hplace : lastPlace 53 n = 2 ^ (n.log2 - 52) := by
        rw [lastPlace]
        congr 1
      rw [roundSig, hplace]

/-- **The integers that survive** the conversion to a `number`. -/
theorem toNumber_eq_int_iff :
    toNumber n = .int n ↔ Representable 53 n.natAbs ∧ n.natAbs < 2 ^ 1024 := by
  rw [← roundSig_eq_self_iff (by norm_num), ← roundToDouble_eq]
  unfold toNumber
  simp only
  split
  · next hfinite =>
      rw [Number.int.injEq]
      constructor
      · intro h
        have hround : roundToDouble n.natAbs = n.natAbs := by
          split at h <;> omega
        exact ⟨hround, hround ▸ hfinite⟩
      · rintro ⟨hround, -⟩
        rw [hround]
        split <;> omega
  · next hinfinite =>
      constructor
      · intro h
        cases h
      · rintro ⟨hround, hlt⟩
        rw [hround] at hinfinite
        exact absurd hlt hinfinite

theorem roundToDouble_of_lt {n : ℕ} (h : n < 2 ^ 53) : roundToDouble n = n := if_pos h

/-- Below `2 ^ 53` nothing else rounds to a number than itself: from there on, rounding stays
there. -/
theorem eq_of_roundToDouble_eq {m n : ℕ} (hn : n < 2 ^ 53) (h : roundToDouble m = n) : m = n := by
  have hm : m < 2 ^ 53 := by
    by_contra hge
    have hle := le_roundSig (p := 53) (by norm_num) (representable_two_pow (by norm_num) 53)
      (not_lt.mp hge)
    rw [← roundToDouble_eq, h] at hle
    omega
  rw [roundToDouble_of_lt hm] at h
  exact h

/-- Rounding keeps the order, and twice is once. -/
theorem roundToDouble_mono {m n : ℕ} (h : m ≤ n) : roundToDouble m ≤ roundToDouble n := by
  rw [roundToDouble_eq, roundToDouble_eq]
  exact roundSig_mono (by norm_num) h

@[inherit_doc roundToDouble_mono]
theorem roundToDouble_idem (n : ℕ) : roundToDouble (roundToDouble n) = roundToDouble n := by
  rw [roundToDouble_eq, roundToDouble_eq]
  exact (roundSig_eq_self_iff (by norm_num)).mpr (representable_roundSig (by norm_num) n)

/-- A safe integer was converted from itself. -/
theorem eq_of_toNumber_isSafeInteger (h : toNumber n = .int m)
    (hsafe : (Number.int m).isSafeInteger = true) : n = m := by
  have habs : |m| ≤ maxSafeInteger := by simpa [Number.isSafeInteger] using hsafe
  rw [Int.abs_eq_natAbs, maxSafeInteger] at habs
  unfold toNumber at h
  simp only at h
  split at h
  case isFalse => cases h
  case isTrue =>
    have hm := Number.int.inj h
    have hround : roundToDouble n.natAbs = m.natAbs := by
      split at hm <;> omega
    have hself := eq_of_roundToDouble_eq (by omega) hround
    rw [hround] at hm
    split at hm <;> omega

/-- A positive number stays one. -/
theorem roundToDouble_pos {n : ℕ} (h : 0 < n) : 0 < roundToDouble n := by
  rw [roundToDouble_eq]
  exact le_roundSig (by norm_num) (representable_of_lt (by norm_num)) h

/-- The conversion keeps the sign. -/
theorem nonpos_toNumber (n : ℤ) : (toNumber n).nonpos = decide (n ≤ 0) := by
  have hpos : 0 < n → 0 < roundToDouble n.natAbs := fun h => roundToDouble_pos (by omega)
  have hzero : n = 0 → roundToDouble n.natAbs = 0 := by
    rintro rfl
    rfl
  unfold toNumber
  simp only
  split
  · rw [Number.nonpos, decide_eq_decide]
    split <;> omega
  · next hinfinite =>
      split
      · next hneg => simp [Number.nonpos, hneg.le]
      · next hneg =>
          have hne : n ≠ 0 := by
            intro h
            rw [hzero h] at hinfinite
            exact hinfinite (by positivity)
          have hn : ¬n ≤ 0 := by omega
          simp [Number.nonpos, hn]

end GuardianStake.Sdk
