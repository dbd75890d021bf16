import GuardianStake.Found.Rounding

/-!
# Arithmetic of doubles

The `number` type where the SDK calculates with it: a finite value, an infinity or `NaN`, each
operation the exact one rounded to 53 significant bits. The two zeros are one value here.

* `Double.AtLeast` — a number that may have been rounded, but not below an integer;
  `ofRat_atLeast` and the operations keep it.
* `ofRat_natCast` — integers below `2 ^ 53` are exact.
* `toIndex` and `slice` — `Array.prototype.slice`.
* `max_one_ceil_div` — a number of pages, by a rounded quotient.
-/

namespace GuardianStake.Sdk

open Found

/-- A `number`. -/
inductive Double
  | nan
  | infinity (negative : Bool)
  | finite (value : ℚ)
  deriving DecidableEq

namespace Double

/-- The nearest double to a rational, infinite from `2 ^ 1024` on. -/
def ofRat (x : ℚ) : Double :=
  let r := roundTo 53 (-1074) x
  if |r| < 2 ^ 1024 then .finite r else .infinity (r < 0)

instance : NatCast Double := ⟨fun n => .finite n⟩

instance (n : ℕ) : OfNat Double n := ⟨.finite n⟩

/-- `-a`. -/
def neg : Double → Double
  | .nan => .nan
  | .infinity s => .infinity !s
  | .finite x => .finite (-x)

/-- `a + b`. -/
def add : Double → Double → Double
  | .finite x, .finite y => ofRat (x + y)
  | .finite _, .infinity s => .infinity s
  | .infinity s, .finite _ => .infinity s
  | .infinity s, .infinity t => if s = t then .infinity s else .nan
  | _, _ => .nan

/-- `a * b`. -/
def mul : Double → Double → Double
  | .finite x, .finite y => ofRat (x * y)
  | .finite x, .infinity s => if x = 0 then .nan else .infinity (s != decide (x < 0))
  | .infinity s, .finite y => if y = 0 then .nan else .infinity (s != decide (y < 0))
  | .infinity s, .infinity t => .infinity (s != t)
  | _, _ => .nan

/-- `a / b`. -/
def div : Double → Double → Double
  | .finite x, .finite y =>
      if y = 0 then (if x = 0 then .nan else .infinity (x < 0)) else ofRat (x / y)
  | .finite _, .infinity _ => .finite 0
  | .infinity s, .finite y => .infinity (s != decide (y < 0))
  | _, _ => .nan

instance : Neg Double := ⟨neg⟩
instance : Add Double := ⟨add⟩
instance : Sub Double := ⟨fun a b => a + -b⟩
instance : Mul Double := ⟨mul⟩
instance : Div Double := ⟨div⟩

/-- `a < b`. -/
def lt : Double → Double → Bool
  | .finite x, .finite y => x < y
  | .finite _, .infinity s => !s
  | .infinity s, .finite _ => s
  | .infinity s, .infinity t => s && !t
  | _, _ => false

/-- `Math.max(a, b)`. -/
def max : Double → Double → Double
  | .nan, _ => .nan
  | _, .nan => .nan
  | a, b => if a.lt b then b else a

/-- `Math.ceil(a)`. -/
def ceil : Double → Double
  | .finite x => .finite ⌈x⌉
  | a => a

/-- `Number.isInteger(a)`. -/
def isInteger : Double → Bool
  | .finite x => x.den = 1
  | _ => false

/-- The index `Array.prototype.slice` takes a position for: integral, from the end if it is
negative, within the array. -/
def toIndex (length : ℕ) : Double → ℕ
  | .nan => 0
  | .infinity negative => if negative then 0 else length
  | .finite x =>
      let i : ℤ := if x < 0 then ⌈x⌉ else ⌊x⌋
      if i < 0 then (length + i).toNat else min i.toNat length

end Double

/-- `array.slice(start, stop)`. -/
def slice {α : Type} (array : List α) (start stop : Double) : List α :=
  (array.take (stop.toIndex array.length)).drop (start.toIndex array.length)

example : slice [10, 20, 30, 40] 1 3 = [20, 30] := by decide +kernel

/-! ## What integers become -/

namespace Double

variable {n : ℕ} {x : ℚ} {a b : Double}

/-- Not below an integer, however it was rounded. -/
def AtLeast (n : ℕ) : Double → Prop
  | .nan => False
  | .infinity negative => negative = false
  | .finite x => n ≤ x

/-- Integers below `2 ^ 53` are exact. -/
theorem ofRat_natCast (hn : n < 2 ^ 53) : ofRat n = n := by
  have hfinite : |(n : ℚ)| < 2 ^ 1024 := by
    rw [Nat.abs_cast]
    calc (n : ℚ) < 2 ^ 53 := by exact_mod_cast hn
      _ < 2 ^ 1024 := by gcongr <;> norm_num
  rw [ofRat, roundTo_natCast (by norm_num) (by norm_num) hn]
  exact if_pos hfinite

/-- Rounding crosses no integer up to `2 ^ 53`. -/
theorem ofRat_atLeast (hn : n ≤ 2 ^ 53) (hx : (n : ℚ) ≤ x) : (ofRat x).AtLeast n := by
  have hround : (n : ℚ) ≤ roundTo 53 (-1074) x := by
    rcases lt_or_ge x (2 ^ 53) with hlt | hge
    · have habs : |x| < 2 ^ 53 := by
        rw [abs_of_nonneg ((Nat.cast_nonneg n).trans hx)]
        exact hlt
      exact intCast_le_roundTo (k := n) (by norm_num) (by norm_num) habs hx
    · calc (n : ℚ) ≤ 2 ^ 53 := by exact_mod_cast hn
        _ ≤ roundTo 53 (-1074) x := two_pow_le_roundTo (by norm_num) (by norm_num) hge
  unfold ofRat
  simp only
  split
  · exact hround
  · exact decide_eq_false (not_lt.mpr ((Nat.cast_nonneg n).trans hround))

/-- A product with a number from one on. -/
theorem AtLeast.mul (hn : n ≤ 2 ^ 53) (ha : a.AtLeast n) (hx : 1 ≤ x) :
    (a * .finite x).AtLeast n := by
  cases a with
  | nan => exact ha.elim
  | infinity negative =>
      obtain rfl : negative = false := ha
      have hne : x ≠ 0 := by linarith
      have hpos : ¬x < 0 := by linarith
      show (Double.mul (.infinity false) (.finite x)).AtLeast n
      simp [Double.mul, hne, hpos, AtLeast]
  | finite y =>
      have hy : (n : ℚ) ≤ y := ha
      apply ofRat_atLeast hn
      nlinarith [Nat.cast_nonneg (α := ℚ) n]

/-- A sum with a number that is not negative. -/
theorem AtLeast.add (hn : n ≤ 2 ^ 53) (ha : a.AtLeast n) (hx : 0 ≤ x) :
    (a + .finite x).AtLeast n := by
  cases a with
  | nan => exact ha.elim
  | infinity negative => exact ha
  | finite y =>
      have hy : (n : ℚ) ≤ y := ha
      apply ofRat_atLeast hn
      linarith

/-- No integer is above one that is at least that. -/
theorem AtLeast.lt_natCast (ha : a.AtLeast n) : a.lt n = false := by
  cases a with
  | nan => exact ha.elim
  | infinity negative => exact ha
  | finite y =>
      have hy : (n : ℚ) ≤ y := ha
      exact decide_eq_false (not_lt.mpr hy)

/-- A position from the length on is the end. -/
theorem AtLeast.toIndex (ha : a.AtLeast n) : a.toIndex n = n := by
  cases a with
  | nan => exact ha.elim
  | infinity negative =>
      obtain rfl : negative = false := ha
      rfl
  | finite y =>
      have hy : (n : ℚ) ≤ y := ha
      have hnonneg : ¬y < 0 := not_lt.mpr ((Nat.cast_nonneg n).trans hy)
      have hfloor : (n : ℤ) ≤ ⌊y⌋ := Int.le_floor.mpr hy
      simp only [Double.toIndex, if_neg hnonneg]
      rw [if_neg (by omega)]
      omega

/-- An integer that may have been rounded, as a position. -/
theorem toIndex_ofRat {length : ℕ} (hlength : length ≤ 2 ^ 53) (n : ℕ) :
    (ofRat n).toIndex length = min n length := by
  rcases lt_or_ge n length with hlt | hge
  · rw [ofRat_natCast (hlt.trans_le hlength)]
    show Double.toIndex length (.finite n) = _
    simp [Double.toIndex]
  · have hcast : (length : ℚ) ≤ n := by exact_mod_cast hge
    rw [(ofRat_atLeast hlength hcast).toIndex, min_eq_right hge]

/-- Integers compare as they do. -/
theorem natCast_lt (m n : ℕ) : (m : Double).lt (n : Double) = decide (m < n) := by
  show decide ((m : ℚ) < n) = decide (m < n)
  rw [decide_eq_decide]
  exact Nat.cast_lt

/-- An integer that may have been rounded, compared. -/
theorem ofRat_lt_natCast {m : ℕ} (hm : m ≤ 2 ^ 53) (n : ℕ) : (ofRat n).lt m = decide (n < m) := by
  rcases lt_or_ge n m with hlt | hge
  · rw [ofRat_natCast (hlt.trans_le hm)]
    exact natCast_lt n m
  · have hcast : (m : ℚ) ≤ n := by exact_mod_cast hge
    rw [(ofRat_atLeast hm hcast).lt_natCast]
    exact (decide_eq_false (not_lt.mpr hge)).symm

/-- The larger of two finite values. -/
theorem max_finite (x y : ℚ) : Double.max (.finite x) (.finite y) = .finite (x ⊔ y) := by
  show (if decide (x < y) then Double.finite y else .finite x) = _
  rcases lt_or_ge x y with hlt | hge
  · rw [decide_eq_true hlt, if_pos rfl, sup_of_le_right hlt.le]
  · rw [decide_eq_false (not_lt.mpr hge), sup_of_le_left hge]
    rfl

end Double

/-- **The number of parts a count is divided into**: the quotient is rounded, its ceiling is not. -/
theorem max_one_ceil_div {n d : ℕ} (hn : n < 2 ^ 53) (hd : 0 < d) :
    Double.max 1 (Double.ceil ((n : Double) / (d : Double))) =
      ((max 1 ⌈(n / d : ℚ)⌉₊ : ℕ) : Double) := by
  have hdpos : (0 : ℚ) < d := by exact_mod_cast hd
  have hquot0 : (0 : ℚ) ≤ n / d := by positivity
  have hquot : (n / d : ℚ) ≤ n := div_le_self (by positivity) (by exact_mod_cast hd)
  have hnlt : (n : ℚ) < 2 ^ 53 := by exact_mod_cast hn
  have habs : |(n / d : ℚ)| < 2 ^ 53 := by
    rw [abs_of_nonneg hquot0]
    exact hquot.trans_lt hnlt
  have hle : roundTo 53 (-1074) (n / d) ≤ n :=
    roundTo_le_intCast (k := n) (by norm_num) (by norm_num) habs hquot
  have hnonneg : 0 ≤ roundTo 53 (-1074) (n / d : ℚ) := by
    have h : ((0 : ℤ) : ℚ) ≤ roundTo 53 (-1074) (n / d) :=
      intCast_le_roundTo (by norm_num) (by norm_num) habs (by rw [Int.cast_zero]; exact hquot0)
    exact_mod_cast h
  have hfinite : |roundTo 53 (-1074) (n / d : ℚ)| < 2 ^ 1024 := by
    rw [abs_of_nonneg hnonneg]
    calc roundTo 53 (-1074) (n / d : ℚ) ≤ n := hle
      _ < 2 ^ 53 := hnlt
      _ < 2 ^ 1024 := by gcongr <;> norm_num
  have hdiv : (n : Double) / (d : Double) = .finite (roundTo 53 (-1074) (n / d)) := by
    show Double.div (.finite n) (.finite d) = _
    rw [Double.div, if_neg hdpos.ne', Double.ofRat]
    exact if_pos hfinite
  have hceil : max 1 ⌈roundTo 53 (-1074) (n / d : ℚ)⌉ = max 1 ⌈(n / d : ℚ)⌉ :=
    ceil_roundTo_div (by norm_num) (by norm_num) hn hd
  rw [hdiv]
  show Double.max (.finite (1 : ℕ)) (.finite ⌈roundTo 53 (-1074) (n / d : ℚ)⌉) = .finite _
  rw [Double.max_finite, Nat.cast_one]
  congr 1
  have hint : ((max 1 ⌈(n / d : ℚ)⌉₊ : ℕ) : ℤ) = max 1 ⌈(n / d : ℚ)⌉ := by
    rw [Nat.cast_max, Nat.cast_one, Int.natCast_ceil_eq_ceil hquot0]
  calc (1 : ℚ) ⊔ ⌈roundTo 53 (-1074) (n / d : ℚ)⌉
      = ((max 1 ⌈roundTo 53 (-1074) (n / d : ℚ)⌉ : ℤ) : ℚ) := by push_cast; rfl
    _ = ((max 1 ⌈(n / d : ℚ)⌉₊ : ℕ) : ℚ) := by
        rw [hceil, ← hint, Int.cast_natCast]

end GuardianStake.Sdk
