import GuardianStake.Found.RelativeError
import GuardianStake.Sdk.DoubleArithmetic
import GuardianStake.Sdk.Errors

/-!
# Errors of a calculation with doubles

How far a product or quotient of numbers that are not negative is from the exact one, and the way
back to a `bigint`.

* `Double.Approx k e a x` — a finite number, `k` roundings from a rational with an exponent of
  about `e`.
* `ofRat_approx`, `Approx.mul`, `Approx.div` — **each operation is one more rounding**, where nothing
  overflows or loses its digits.
* `toBigInt_max_one_trunc` — **what is left of a number** that is truncated to an integer of one at
  least.
-/

namespace GuardianStake.Sdk

open Found

namespace Double

/-- `Number(n)` for a `bigint`. -/
def ofInt (n : ℤ) : Double := ofRat n

/-- `Math.trunc(a)`. -/
def trunc : Double → Double
  | .finite x => .finite (if x < 0 then ⌈x⌉ else ⌊x⌋)
  | a => a

/-- `BigInt(a)` for a `number`. -/
def toBigInt : Double → Result ℤ
  | .finite x =>
      if x.den = 1 then .ok x.num
      else .error (.foreign "RangeError: The number is not a safe integer or not an integer.")
  | _ => .error (.foreign "RangeError: The number cannot be converted to a BigInt.")

/-- One rounding is a relative error of at most this. -/
def unitRoundoff : ℚ := (2 : ℚ)⁻¹ ^ 53

/-- A finite number, within `k` roundings of a rational that is zero or between `2⁻ᵉ` and `2ᵉ`. -/
def Approx (k e : ℕ) (a : Double) (x : ℚ) : Prop :=
  Moderate e x ∧ ∃ r, a = .finite r ∧ 0 ≤ r ∧ Near unitRoundoff k r x

theorem unitRoundoff_nonneg : 0 ≤ unitRoundoff := by
  unfold unitRoundoff
  positivity

theorem unitRoundoff_le_one : unitRoundoff ≤ 1 := by
  unfold unitRoundoff
  exact pow_le_one₀ (by norm_num) (by norm_num)

/-- A hundred roundings are few. -/
theorem mul_unitRoundoff_le {k : ℕ} (hk : k ≤ 100) : k * unitRoundoff ≤ 1 / 2 := by
  have hcast : (k : ℚ) ≤ 100 := by exact_mod_cast hk
  calc k * unitRoundoff ≤ 100 * unitRoundoff :=
        mul_le_mul_of_nonneg_right hcast unitRoundoff_nonneg
    _ ≤ 1 / 2 := by norm_num [unitRoundoff]

section

variable {j k e f : ℕ} {a b : Double} {x y : ℚ}

/-- Rounding what is within some roundings of a number that neither overflows nor loses its
digits. -/
theorem ofRat_approx_of_near {r : ℚ} (hr : 0 ≤ r) (hk : k ≤ 100) (hx : Moderate e x)
    (he : e ≤ 1000) (h : Near unitRoundoff k r x) : (ofRat r).Approx (1 + k) e x := by
  have hfew := mul_unitRoundoff_le hk
  have hr2 := h.le_two_mul unitRoundoff_le_one hfew hr
  have hx2 := h.symm.le_two_mul unitRoundoff_le_one hfew hx.nonneg
  have hrange : (r = 0 ∨ (2 : ℚ) ^ (-1074 + 53 - 1 : ℤ) ≤ r) ∧ r ≤ 2 ^ 1001 := by
    rcases hx with rfl | ⟨hlow, hhigh⟩
    · obtain rfl : r = 0 := le_antisymm (by linarith) hr
      exact ⟨Or.inl rfl, by positivity⟩
    · have hpow : (2 : ℚ)⁻¹ ^ 1000 ≤ 2⁻¹ ^ e :=
        pow_le_pow_of_le_one (by norm_num) (by norm_num) he
      have hleast : 2 * (2 : ℚ) ^ (-1074 + 53 - 1 : ℤ) ≤ 2⁻¹ ^ 1000 := by
        rw [← zpow_natCast, inv_zpow', ← zpow_one_add₀ (by norm_num)]
        exact zpow_le_zpow_right₀ (by norm_num) (by norm_num)
      have hmost : (2 : ℚ) ^ e ≤ 2 ^ 1000 := pow_le_pow_right₀ (by norm_num) he
      have htwice := ((hleast.trans hpow).trans hlow).trans hx2
      refine ⟨Or.inr (le_of_mul_le_mul_left htwice two_pos), ?_⟩
      calc r ≤ 2 * x := hr2
        _ ≤ 2 * 2 ^ 1000 := mul_le_mul_of_nonneg_left (hhigh.trans hmost) two_pos.le
        _ = 2 ^ 1001 := (pow_succ' 2 1000).symm
  have hnear : Near unitRoundoff 1 (roundTo 53 (-1074) r) r :=
    near_roundTo (by norm_num) hrange.1
  have hnonneg : 0 ≤ roundTo 53 (-1074) r :=
    le_trans (mul_nonneg hr (pow_nonneg (sub_nonneg.mpr unitRoundoff_le_one) 1)) hnear.1
  have hfinite : |roundTo 53 (-1074) r| < 2 ^ 1024 := by
    rw [abs_of_nonneg hnonneg]
    calc roundTo 53 (-1074) r
        ≤ 2 * r :=
          hnear.le_two_mul unitRoundoff_le_one (mul_unitRoundoff_le (by norm_num)) hnonneg
      _ ≤ 2 * 2 ^ 1001 := mul_le_mul_of_nonneg_left hrange.2 two_pos.le
      _ = 2 ^ 1002 := (pow_succ' 2 1001).symm
      _ < 2 ^ 1024 := pow_lt_pow_right₀ (by norm_num) (by norm_num)
  exact ⟨hx, _, if_pos hfinite, hnonneg, hnear.trans unitRoundoff_le_one h⟩

/-- **One rounding.** -/
theorem ofRat_approx (hx : Moderate e x) (he : e ≤ 1000) : (ofRat x).Approx 1 e x := by
  have hself : Near unitRoundoff 0 x x := by
    simp [Near]
  exact ofRat_approx_of_near hx.nonneg (by norm_num) hx he hself

/-- **A product** is one more rounding. -/
theorem Approx.mul (ha : a.Approx j e x) (hb : b.Approx k f y) (hjk : j + k ≤ 100)
    (hef : e + f ≤ 1000) : (a * b).Approx (1 + (j + k)) (e + f) (x * y) := by
  obtain ⟨hx, r, rfl, hr, hnear⟩ := ha
  obtain ⟨hy, s, rfl, hs, hnear'⟩ := hb
  exact ofRat_approx_of_near (mul_nonneg hr hs) hjk (hx.mul hy) hef
    (hnear.mul unitRoundoff_le_one hr hx.nonneg hs hy.nonneg hnear')

/-- **A quotient** is one more rounding. -/
theorem Approx.div (ha : a.Approx j e x) (hb : b.Approx k f y) (hy0 : y ≠ 0) (hjk : j + k ≤ 100)
    (hef : e + f ≤ 1000) : (a / b).Approx (1 + (j + k)) (e + f) (x / y) := by
  obtain ⟨hx, r, rfl, hr, hnear⟩ := ha
  obtain ⟨hy, s, rfl, hs, hnear'⟩ := hb
  have hypos : 0 < y := lt_of_le_of_ne hy.nonneg hy0.symm
  have hspos : 0 < s := by
    have htwo := hnear'.symm.le_two_mul unitRoundoff_le_one (mul_unitRoundoff_le (by omega))
      hypos.le
    linarith
  have hdiv : (.finite r / .finite s : Double) = ofRat (r / s) := if_neg hspos.ne'
  rw [hdiv]
  refine ofRat_approx_of_near (div_nonneg hr hs) hjk ?_ hef
    (hnear.div unitRoundoff_le_one hr hx.nonneg hspos hypos hnear')
  rw [div_eq_mul_inv]
  exact hx.mul hy.inv

/-- **What is left of a number** that is truncated to an integer of one at least: it is converted,
and it is off by the roundings and less than one. -/
theorem toBigInt_max_one_trunc (ha : a.Approx k e x) (hk : k ≤ 100) :
    ∃ n : ℤ, toBigInt (Double.max 1 a.trunc) = .ok n ∧ 1 ≤ n ∧
      |(n : ℚ) - (⌊x⌋ ⊔ 1 : ℤ)| < 2 * k * unitRoundoff * x + 1 := by
  obtain ⟨hx, r, rfl, hr, hnear⟩ := ha
  have htrunc : (Double.finite r).trunc = .finite ⌊r⌋ := by
    show Double.finite _ = _
    rw [if_neg (not_lt.mpr hr)]
  have hmax : Double.max 1 (.finite ⌊r⌋) = .finite ((⌊r⌋ ⊔ 1 : ℤ) : ℚ) := by
    show Double.max (.finite (1 : ℕ)) (.finite ⌊r⌋) = _
    rw [max_finite, sup_comm]
    push_cast
    rfl
  refine ⟨⌊r⌋ ⊔ 1, ?_, le_sup_right, ?_⟩
  · rw [htrunc, hmax, toBigInt, if_pos (Rat.den_intCast _), Rat.num_intCast]
  · have herr := hnear.abs_sub_le unitRoundoff_nonneg unitRoundoff_le_one
      (mul_unitRoundoff_le hk) hr hx.nonneg
    have hfloors : |(⌊r⌋ : ℚ) - ⌊x⌋| < |r - x| + 1 := by
      have hlow := Int.floor_le r
      have hhigh := Int.lt_floor_add_one r
      have hlow' := Int.floor_le x
      have hhigh' := Int.lt_floor_add_one x
      rw [abs_lt]
      constructor
      · linarith [neg_abs_le (r - x)]
      · linarith [le_abs_self (r - x)]
    have hsup : |((⌊r⌋ ⊔ 1 : ℤ) : ℚ) - (⌊x⌋ ⊔ 1 : ℤ)| ≤ |(⌊r⌋ : ℚ) - ⌊x⌋| := by
      exact_mod_cast abs_max_sub_max_le_abs ⌊r⌋ ⌊x⌋ 1
    linarith

end

end Double

end GuardianStake.Sdk
