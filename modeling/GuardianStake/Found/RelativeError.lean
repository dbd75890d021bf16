import GuardianStake.Found.Rounding

/-!
# Relative errors of products and quotients

`Near u k x y`: the numbers `x` and `y` are within `k` relative errors of at most `u` of each other.
The relation is symmetric; products and quotients add up the errors. Nothing here names a
program.

* `Near.mul`, `Near.div` — the errors of a product or a quotient.
* `Moderate e x` — zero, or between `2⁻ᵉ` and `2ᵉ`; the exponents add up, too.
* `Near.abs_sub_le` — the absolute error that is left.
* `near_roundTo` — rounding to `p` significant digits is one error of `2⁻ᵖ`.
-/

namespace GuardianStake.Found

section near

variable {K : Type*} [Field K] [LinearOrder K] [IsStrictOrderedRing K] {u x y z x' y' : K}
  {j k : ℕ}

/-- Within `k` relative errors of at most `u` of each other. -/
def Near (u : K) (k : ℕ) (x y : K) : Prop := y * (1 - u) ^ k ≤ x ∧ x * (1 - u) ^ k ≤ y

omit [IsStrictOrderedRing K] in
theorem Near.symm (h : Near u k x y) : Near u k y x := ⟨h.2, h.1⟩

omit [IsStrictOrderedRing K] in
@[simp] theorem near_zero (u : K) (k : ℕ) : Near u k 0 0 := by
  simp [Near]

/-- Errors add up. -/
theorem Near.trans (hu : u ≤ 1) (h : Near u j x y) (h' : Near u k y z) : Near u (j + k) x z := by
  have hpow : ∀ n, (0 : K) ≤ (1 - u) ^ n := fun n => pow_nonneg (sub_nonneg.mpr hu) n
  constructor
  · calc z * (1 - u) ^ (j + k) = z * (1 - u) ^ k * (1 - u) ^ j := by ring
      _ ≤ y * (1 - u) ^ j := mul_le_mul_of_nonneg_right h'.1 (hpow j)
      _ ≤ x := h.1
  · calc x * (1 - u) ^ (j + k) = x * (1 - u) ^ j * (1 - u) ^ k := by ring
      _ ≤ y * (1 - u) ^ k := mul_le_mul_of_nonneg_right h.2 (hpow k)
      _ ≤ z := h'.2

/-- The errors of a product. -/
theorem Near.mul (hu : u ≤ 1) (hx : 0 ≤ x) (hy : 0 ≤ y) (hx' : 0 ≤ x') (hy' : 0 ≤ y')
    (h : Near u j x y) (h' : Near u k x' y') : Near u (j + k) (x * x') (y * y') := by
  have hpow : ∀ n, (0 : K) ≤ (1 - u) ^ n := fun n => pow_nonneg (sub_nonneg.mpr hu) n
  constructor
  · calc y * y' * (1 - u) ^ (j + k) = y * (1 - u) ^ j * (y' * (1 - u) ^ k) := by ring
      _ ≤ x * x' := mul_le_mul h.1 h'.1 (mul_nonneg hy' (hpow k)) hx
  · calc x * x' * (1 - u) ^ (j + k) = x * (1 - u) ^ j * (x' * (1 - u) ^ k) := by ring
      _ ≤ y * y' := mul_le_mul h.2 h'.2 (mul_nonneg hx' (hpow k)) hy

/-- The errors of an inverse. -/
theorem Near.inv (hx : 0 < x) (hy : 0 < y) (h : Near u k x y) : Near u k x⁻¹ y⁻¹ := by
  constructor
  · rw [inv_mul_le_iff₀ hy, ← div_eq_mul_inv, le_div_iff₀ hx, mul_comm]
    exact h.2
  · rw [inv_mul_le_iff₀ hx, ← div_eq_mul_inv, le_div_iff₀ hy, mul_comm]
    exact h.1

/-- The errors of a quotient. -/
theorem Near.div (hu : u ≤ 1) (hx : 0 ≤ x) (hy : 0 ≤ y) (hx' : 0 < x') (hy' : 0 < y')
    (h : Near u j x y) (h' : Near u k x' y') : Near u (j + k) (x / x') (y / y') := by
  rw [div_eq_mul_inv, div_eq_mul_inv]
  exact h.mul hu hx hy (inv_nonneg.mpr hx'.le) (inv_nonneg.mpr hy'.le) (h'.inv hx' hy')

/-- Few small errors leave at least a half. -/
theorem half_le_pow_of_mul_le (hu : u ≤ 1) (hk : k * u ≤ 1 / 2) : 1 / 2 ≤ (1 - u) ^ k := by
  have hbernoulli := one_add_mul_le_pow (a := -u) (by linarith) k
  rw [← sub_eq_add_neg] at hbernoulli
  linarith

/-- So neither number is more than twice the other. -/
theorem Near.le_two_mul (hu : u ≤ 1) (hk : k * u ≤ 1 / 2) (hx : 0 ≤ x) (h : Near u k x y) :
    x ≤ 2 * y := by
  have hhalf := mul_le_mul_of_nonneg_left (half_le_pow_of_mul_le hu hk) hx
  linarith [h.2]

/-- **The absolute error** that is left of few small errors. -/
theorem Near.abs_sub_le (hu0 : 0 ≤ u) (hu : u ≤ 1) (hk : k * u ≤ 1 / 2) (hx : 0 ≤ x) (hy : 0 ≤ y)
    (h : Near u k x y) : |x - y| ≤ 2 * k * u * y := by
  have hbernoulli := one_add_mul_le_pow (a := -u) (by linarith) k
  rw [← sub_eq_add_neg] at hbernoulli
  have hku : 0 ≤ (k : K) * u := by positivity
  have htwo := h.le_two_mul hu hk hx
  have hlow : y * (1 - k * u) ≤ x :=
    (mul_le_mul_of_nonneg_left (by linarith) hy).trans h.1
  have hhigh : x * (1 - k * u) ≤ y :=
    (mul_le_mul_of_nonneg_left (by linarith) hx).trans h.2
  have hscaled : k * u * x ≤ k * u * (2 * y) := mul_le_mul_of_nonneg_left htwo hku
  rw [abs_le]
  constructor
  · nlinarith [mul_nonneg hku hy]
  · nlinarith [mul_nonneg hku hy]

/-- Zero, or between `2⁻ᵉ` and `2ᵉ`. -/
def Moderate (e : ℕ) (x : K) : Prop := x = 0 ∨ (2 : K)⁻¹ ^ e ≤ x ∧ x ≤ 2 ^ e

variable {e f : ℕ}

theorem Moderate.nonneg (h : Moderate e x) : 0 ≤ x := by
  rcases h with rfl | ⟨h, -⟩
  · rfl
  · exact le_trans (by positivity) h

/-- A product. -/
theorem Moderate.mul (hx : Moderate e x) (hy : Moderate f y) : Moderate (e + f) (x * y) := by
  rcases hx with rfl | ⟨hx, hx'⟩
  · exact Or.inl (zero_mul y)
  rcases hy with rfl | ⟨hy, hy'⟩
  · exact Or.inl (mul_zero x)
  have hx0 : 0 ≤ x := le_trans (by positivity) hx
  have hy0 : 0 ≤ y := le_trans (by positivity) hy
  right
  rw [pow_add, pow_add]
  exact ⟨mul_le_mul hx hy (by positivity) hx0, mul_le_mul hx' hy' hy0 (by positivity)⟩

/-- An inverse. -/
theorem Moderate.inv (hx : Moderate e x) : Moderate e x⁻¹ := by
  rcases hx with rfl | ⟨hx, hx'⟩
  · exact Or.inl inv_zero
  have hpos : 0 < x := lt_of_lt_of_le (by positivity) hx
  right
  rw [inv_pow] at hx ⊢
  exact ⟨inv_anti₀ hpos hx', (inv_le_comm₀ hpos (by positivity)).mpr hx⟩

end near

/-! ### Rounding -/

section rounding

variable {p : ℕ} {emin : ℤ} {x : ℚ}

/-- Where the format reaches, half a last place is at most a part in `2ᵖ`. -/
theorem half_grid_le (hp : 0 < p) (hx : (2 : ℚ) ^ (emin + p - 1) ≤ x) :
    grid p emin x / 2 ≤ x / 2 ^ p := by
  have hpos : 0 < x := lt_of_lt_of_le (by positivity) hx
  have hlog : emin + p - 1 ≤ Int.log 2 x :=
    (Int.zpow_le_iff_le_log (by norm_num) hpos).mp hx
  have hself : (2 : ℚ) ^ Int.log 2 x ≤ x := by
    exact_mod_cast Int.zpow_log_le_self (b := 2) (by norm_num) hpos
  have hlead : grid p emin x * 2 ^ (p - 1) = 2 ^ Int.log 2 x :=
    grid_mul_two_pow hp hpos (by rw [abs_of_pos hpos]; omega)
  obtain ⟨q, rfl⟩ : ∃ q, p = q + 1 := ⟨p - 1, by omega⟩
  rw [Nat.add_sub_cancel] at hlead
  rw [le_div_iff₀ (by positivity), pow_succ]
  linarith

/-- **Rounding is one relative error** of `2⁻ᵖ`, for zero and where the format reaches. -/
theorem near_roundTo (hp : 0 < p) (hx : x = 0 ∨ (2 : ℚ) ^ (emin + p - 1) ≤ x) :
    Near ((2 : ℚ)⁻¹ ^ p) 1 (roundTo p emin x) x := by
  rcases hx with rfl | hx
  · have hzero : roundTo p emin 0 = 0 := by
      simp [roundTo, nearestEven]
    rw [hzero]
    exact near_zero _ _
  · have hpos : 0 < x := lt_of_lt_of_le (by positivity) hx
    have herr := (abs_roundTo_sub_le p emin x).trans (half_grid_le hp hx)
    have hpart : x / 2 ^ p = x * (2 : ℚ)⁻¹ ^ p := by
      rw [inv_pow, div_eq_mul_inv]
    have hu0 : (0 : ℚ) ≤ (2 : ℚ)⁻¹ ^ p := by positivity
    have hu1 : (2 : ℚ)⁻¹ ^ p ≤ 1 := pow_le_one₀ (by norm_num) (by norm_num)
    rw [hpart, abs_sub_le_iff] at herr
    obtain ⟨hhigh, hlow⟩ := herr
    generalize (2 : ℚ)⁻¹ ^ p = u at hhigh hlow hu0 hu1
    rw [Near, pow_one]
    constructor
    · linarith
    · nlinarith

end rounding

end GuardianStake.Found
