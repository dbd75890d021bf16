import Mathlib

/-!
# Rounding rationals to a binary floating-point format

Rationals rounded to `p` significant binary digits above a least exponent, to the nearest such
number and to the even one of two. Nothing here names a program.

* `nearestEven x` — the nearest integer; `le_nearestEven`, `nearestEven_le`: it crosses none.
* `grid p emin x` — the last place of `x` in the format.
* `roundTo p emin x` — the nearest multiple of it; `abs_roundTo_sub_le` bounds the error.
* `roundTo_natCast` — integers of up to `p` bits are exact; `two_pow_le_roundTo`: larger numbers
  stay larger.
* `ceil_roundTo_div` — **a quotient of integers of up to `p` bits keeps its ceiling**.
-/

namespace GuardianStake.Found

/-! ### The nearest integer -/

/-- The nearest integer, ties to the even one. -/
def nearestEven (x : ℚ) : ℤ :=
  if 1 < 2 * Int.fract x ∨ (2 * Int.fract x = 1 ∧ ⌊x⌋ % 2 = 1) then ⌊x⌋ + 1 else ⌊x⌋

section

variable {x : ℚ} {k : ℤ}

@[simp] theorem nearestEven_intCast (k : ℤ) : nearestEven k = k := by
  simp [nearestEven]

/-- The nearest integer is within one half. -/
theorem abs_nearestEven_sub_le (x : ℚ) : |nearestEven x - x| ≤ 1 / 2 := by
  have hsplit := Int.floor_add_fract x
  have hlo := Int.fract_nonneg x
  have hhi := Int.fract_lt_one x
  unfold nearestEven
  rw [abs_le]
  split
  · next hup =>
      have hhalf : 1 ≤ 2 * Int.fract x := by
        rcases hup with h | ⟨h, -⟩ <;> linarith
      push_cast
      constructor <;> linarith
  · next hdown =>
      have hhalf : 2 * Int.fract x ≤ 1 := not_lt.mp fun h => hdown (Or.inl h)
      constructor <;> linarith

/-- Rounding crosses no integer from above. -/
theorem le_nearestEven (h : (k : ℚ) ≤ x) : k ≤ nearestEven x := by
  have hfloor : k ≤ ⌊x⌋ := Int.le_floor.mpr h
  unfold nearestEven
  split <;> omega

/-- Nor from below. -/
theorem nearestEven_le (h : x ≤ k) : nearestEven x ≤ k := by
  rcases h.lt_or_eq with hlt | rfl
  · have hfloor : ⌊x⌋ < k := Int.floor_lt.mpr hlt
    unfold nearestEven
    split <;> omega
  · exact (nearestEven_intCast k).le

end

/-! ### The format -/

/-- The last place of a number with `p` significant digits and exponents from `emin` on. -/
def grid (p : ℕ) (emin : ℤ) (x : ℚ) : ℚ := 2 ^ max (Int.log 2 |x| + 1 - p) emin

/-- The nearest number of the format. -/
def roundTo (p : ℕ) (emin : ℤ) (x : ℚ) : ℚ := nearestEven (x / grid p emin x) * grid p emin x

section

variable {p : ℕ} {emin : ℤ} {x : ℚ}

theorem grid_pos (p : ℕ) (emin : ℤ) (x : ℚ) : 0 < grid p emin x := by
  unfold grid
  positivity

/-- The error is half a last place at most. -/
theorem abs_roundTo_sub_le (p : ℕ) (emin : ℤ) (x : ℚ) :
    |roundTo p emin x - x| ≤ grid p emin x / 2 := by
  have hpos := grid_pos p emin x
  have herr := mul_le_mul_of_nonneg_right (abs_nearestEven_sub_le (x / grid p emin x)) hpos.le
  rw [← abs_of_pos hpos, ← abs_mul, sub_mul, abs_of_pos hpos, div_mul_cancel₀ x hpos.ne'] at herr
  calc |roundTo p emin x - x| ≤ 1 / 2 * grid p emin x := herr
    _ = grid p emin x / 2 := by ring

/-- Rounding does not fall below a multiple of the last place. -/
theorem le_roundTo {k : ℤ} (h : k * grid p emin x ≤ x) : k * grid p emin x ≤ roundTo p emin x := by
  have hpos := grid_pos p emin x
  have hk : k ≤ nearestEven (x / grid p emin x) := le_nearestEven ((le_div_iff₀ hpos).mpr h)
  unfold roundTo
  gcongr

/-- Nor does it exceed one. -/
theorem roundTo_le {k : ℤ} (h : x ≤ k * grid p emin x) : roundTo p emin x ≤ k * grid p emin x := by
  have hpos := grid_pos p emin x
  have hk : nearestEven (x / grid p emin x) ≤ k := nearestEven_le ((div_le_iff₀ hpos).mpr h)
  unfold roundTo
  gcongr

/-- Integers are multiples of a last place that is at most one. -/
theorem exists_eq_mul_grid (h : max (Int.log 2 |x| + 1 - p) emin ≤ 0) (k : ℤ) :
    ∃ m : ℤ, (k : ℚ) = m * grid p emin x := by
  obtain ⟨j, hj⟩ := Int.eq_ofNat_of_zero_le (neg_nonneg.mpr h)
  refine ⟨k * 2 ^ j, ?_⟩
  have hexp : max (Int.log 2 |x| + 1 - p) emin = -(j : ℤ) := by omega
  rw [grid, hexp, zpow_neg, zpow_natCast]
  push_cast
  field_simp

/-- Numbers of up to `p` bits before the point have a last place of at most one. -/
theorem grid_exponent_le (hemin : emin ≤ 0) (hp : 0 < p) (hlt : |x| < 2 ^ p) :
    max (Int.log 2 |x| + 1 - p) emin ≤ 0 := by
  have hlog : Int.log 2 |x| + 1 - p ≤ 0 := by
    rcases eq_or_ne x 0 with rfl | hx
    · rw [abs_zero, Int.log_zero_right]
      omega
    · have hlog : Int.log 2 |x| < p := by
        apply (Int.lt_zpow_iff_log_lt (by norm_num) (abs_pos.mpr hx)).mp
        rw [zpow_natCast]
        exact_mod_cast hlt
      omega
  exact max_le hlog hemin

/-- So rounding them crosses no integer from below. -/
theorem roundTo_le_intCast (hemin : emin ≤ 0) (hp : 0 < p) (hlt : |x| < 2 ^ p) {k : ℤ}
    (h : x ≤ k) : roundTo p emin x ≤ k := by
  obtain ⟨m, hm⟩ := exists_eq_mul_grid (grid_exponent_le hemin hp hlt) k
  rw [hm] at h ⊢
  exact roundTo_le h

/-- Nor from above. -/
theorem intCast_le_roundTo (hemin : emin ≤ 0) (hp : 0 < p) (hlt : |x| < 2 ^ p) {k : ℤ}
    (h : (k : ℚ) ≤ x) : (k : ℚ) ≤ roundTo p emin x := by
  obtain ⟨m, hm⟩ := exists_eq_mul_grid (grid_exponent_le hemin hp hlt) k
  rw [hm] at h ⊢
  exact le_roundTo h

/-- Integers of up to `p` bits are exact. -/
theorem roundTo_natCast (hemin : emin ≤ 0) (hp : 0 < p) {n : ℕ} (hn : n < 2 ^ p) :
    roundTo p emin n = n := by
  have hlt : |(n : ℚ)| < 2 ^ p := by
    rw [Nat.abs_cast]
    exact_mod_cast hn
  apply le_antisymm
  · exact roundTo_le_intCast (k := n) hemin hp hlt le_rfl
  · exact intCast_le_roundTo (k := n) hemin hp hlt le_rfl

/-- The last place stands `p - 1` places below the leading bit, where the format reaches. -/
theorem grid_mul_two_pow (hp : 0 < p) (hx : 0 < x) (hlog : emin ≤ Int.log 2 |x| + 1 - p) :
    grid p emin x * 2 ^ (p - 1) = 2 ^ Int.log 2 x := by
  obtain ⟨q, rfl⟩ : ∃ q, p = q + 1 := ⟨p - 1, by omega⟩
  rw [grid, max_eq_left hlog, abs_of_pos hx, Nat.add_sub_cancel, ← zpow_natCast, ← zpow_add₀
    (by norm_num)]
  congr 1
  push_cast
  ring

/-- Larger numbers stay larger. -/
theorem two_pow_le_roundTo (hemin : emin ≤ 0) (hp : 0 < p) (h : (2 : ℚ) ^ p ≤ x) :
    (2 : ℚ) ^ p ≤ roundTo p emin x := by
  have hx : 0 < x := lt_of_lt_of_le (by positivity) h
  have hlog : (p : ℤ) ≤ Int.log 2 x := by
    apply (Int.zpow_le_iff_le_log (by norm_num) hx).mp
    rw [zpow_natCast]
    exact_mod_cast h
  have hlead : grid p emin x * 2 ^ (p - 1) = 2 ^ Int.log 2 x :=
    grid_mul_two_pow hp hx (by rw [abs_of_pos hx]; omega)
  have hself : (2 : ℚ) ^ Int.log 2 x ≤ x := by
    exact_mod_cast Int.zpow_log_le_self (b := 2) (by norm_num) hx
  calc (2 : ℚ) ^ p = 2 ^ (p : ℤ) := (zpow_natCast 2 p).symm
    _ ≤ 2 ^ Int.log 2 x := zpow_le_zpow_right₀ (by norm_num) hlog
    _ = ((2 ^ (p - 1) : ℤ) : ℚ) * grid p emin x := by
        rw [← hlead]
        push_cast
        ring
    _ ≤ roundTo p emin x := by
        apply le_roundTo
        calc ((2 ^ (p - 1) : ℤ) : ℚ) * grid p emin x = 2 ^ Int.log 2 x := by
              rw [← hlead]
              push_cast
              ring
          _ ≤ x := hself

/-- Half a last place of a quotient of integers of up to `p` bits is less than one part of it. -/
theorem half_grid_lt_one_div (hp : 0 < p) {n d : ℕ} (hn : n < 2 ^ p) (hd : 0 < d)
    (hx : (0 : ℚ) < n / d) (hlog : emin ≤ Int.log 2 |(n / d : ℚ)| + 1 - p) :
    grid p emin (n / d) / 2 < 1 / d := by
  have hdpos : (0 : ℚ) < d := by exact_mod_cast hd
  have hnlt : (n : ℚ) < 2 ^ p := by exact_mod_cast hn
  have hself : (2 : ℚ) ^ Int.log 2 (n / d : ℚ) ≤ n / d := by
    exact_mod_cast Int.zpow_log_le_self (b := 2) (by norm_num) hx
  have htwo : grid p emin (n / d) / 2 * 2 ^ p ≤ n / d := by
    calc grid p emin (n / d) / 2 * 2 ^ p = grid p emin (n / d) * 2 ^ (p - 1) := by
          obtain ⟨q, rfl⟩ : ∃ q, p = q + 1 := ⟨p - 1, by omega⟩
          rw [Nat.add_sub_cancel, pow_succ]
          ring
      _ = 2 ^ Int.log 2 (n / d : ℚ) := grid_mul_two_pow hp hx hlog
      _ ≤ n / d := hself
  by_contra hge
  rw [not_lt] at hge
  have hmul : 1 / d * 2 ^ p ≤ (n / d : ℚ) :=
    (mul_le_mul_of_nonneg_right hge (by positivity)).trans htwo
  rw [div_mul_eq_mul_div, one_mul, div_le_div_iff_of_pos_right hdpos] at hmul
  exact absurd hnlt hmul.not_gt

/-- A quotient is one part at least above the integer before its ceiling. -/
theorem ceil_sub_one_add_le (n : ℕ) {d : ℕ} (hd : 0 < d) :
    (⌈(n / d : ℚ)⌉ : ℚ) - 1 + 1 / d ≤ n / d := by
  have hdpos : (0 : ℚ) < d := by exact_mod_cast hd
  have hceil := Int.ceil_lt_add_one (n / d : ℚ)
  have hprev : ((⌈(n / d : ℚ)⌉ - 1 : ℤ) : ℚ) * d < n := by
    rw [← lt_div_iff₀ hdpos]
    push_cast
    linarith
  have hint : (⌈(n / d : ℚ)⌉ - 1) * (d : ℤ) + 1 ≤ n := by exact_mod_cast hprev
  have hcast : ((⌈(n / d : ℚ)⌉ : ℚ) - 1) * d + 1 ≤ n := by exact_mod_cast hint
  rw [le_div_iff₀ hdpos, add_mul, one_div_mul_cancel hdpos.ne']
  exact hcast

/-- **A quotient of integers of up to `p` bits keeps its ceiling**, one at least: rounding moves it
by less than one part, to either side of no integer. -/
theorem ceil_roundTo_div (hp : 0 < p) (hemin : emin ≤ 1 - p) {n d : ℕ} (hn : n < 2 ^ p)
    (hd : 0 < d) : max 1 ⌈roundTo p emin (n / d)⌉ = max 1 ⌈(n / d : ℚ)⌉ := by
  have hdpos : (0 : ℚ) < d := by exact_mod_cast hd
  have hone : (1 : ℚ) ≤ d := by exact_mod_cast hd
  have hnlt : (n : ℚ) < 2 ^ p := by exact_mod_cast hn
  have hlt : |(n / d : ℚ)| < 2 ^ p := by
    rw [abs_of_nonneg (by positivity)]
    exact (div_le_self (by positivity) hone).trans_lt hnlt
  rcases le_or_gt n d with hle | hgt
  · have hsmall : (n / d : ℚ) ≤ (1 : ℤ) := by
      rw [Int.cast_one, div_le_one hdpos]
      exact_mod_cast hle
    rw [max_eq_left (Int.ceil_le.mpr (roundTo_le_intCast (by omega) hp hlt hsmall)),
      max_eq_left (Int.ceil_le.mpr hsmall)]
  · have hx : (1 : ℚ) < n / d := by
      rw [one_lt_div hdpos]
      exact_mod_cast hgt
    have hxpos : (0 : ℚ) < n / d := lt_trans one_pos hx
    have hlog : 0 ≤ Int.log 2 (n / d : ℚ) := by
      apply (Int.zpow_le_iff_le_log (by norm_num) hxpos).mp
      rw [zpow_zero]
      exact hx.le
    have hhalf : grid p emin (n / d) / 2 < 1 / d :=
      half_grid_lt_one_div hp hn hd hxpos (by rw [abs_of_pos hxpos]; omega)
    have hgap := ceil_sub_one_add_le n hd
    have herr := (abs_le.mp (abs_roundTo_sub_le p emin (n / d : ℚ))).1
    congr 1
    rw [Int.ceil_eq_iff]
    constructor
    · linarith
    · exact roundTo_le_intCast (by omega) hp hlt (Int.le_ceil _)

end

end GuardianStake.Found
