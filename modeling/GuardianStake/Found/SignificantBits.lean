import Mathlib

/-!
# Numbers with a bounded number of significant bits

Natural numbers rounded to `p` significant binary digits, to the nearest such number and to the
even one of two, as a binary floating-point format of unbounded exponent does. Nothing here names a
program.

* `Representable p n` — `n` is a multiple of a power of two by less than `2 ^ p`.
* `representable_iff_dvd` — equivalently, it is a multiple of its own last place.
* `roundSig_eq_self_iff` — **rounding is exact on the representable numbers only**.
* `roundSig_mono` — rounding keeps the order, so nothing representable is ever crossed
  (`le_roundSig`).
-/

namespace GuardianStake.Found

/-- `n` is a multiple of a power of two by less than `2 ^ p`. -/
def Representable (p n : ℕ) : Prop := ∃ m e, m < 2 ^ p ∧ n = m * 2 ^ e

/-- The last place of `n` in `p` significant bits. -/
def lastPlace (p n : ℕ) : ℕ := 2 ^ (n.log2 + 1 - p)

/-- The nearest number of `p` significant bits, ties to the even one. -/
def roundSig (p n : ℕ) : ℕ :=
  let unit := lastPlace p n
  let q := n / unit
  let r := n % unit
  (if unit < 2 * r ∨ (2 * r = unit ∧ q % 2 = 1) then q + 1 else q) * unit

section

variable {p m n : ℕ}

theorem lastPlace_pos (p n : ℕ) : 0 < lastPlace p n := Nat.two_pow_pos _

/-- Up to `p` bits the last place is the unit. -/
theorem lastPlace_of_lt (hp : 0 < p) (h : n < 2 ^ p) : lastPlace p n = 1 := by
  have hlog : n.log2 < p := by
    rcases Nat.eq_zero_or_pos n with rfl | hn
    · simpa using hp
    · exact (Nat.log2_lt hn.ne').mpr h
  rw [lastPlace, Nat.sub_eq_zero_of_le hlog, Nat.pow_zero]

/-- Above, the leading bit is `2 ^ (p - 1)` last places. -/
theorem lastPlace_mul_two_pow (hp : 0 < p) (h : 2 ^ p ≤ n) :
    lastPlace p n * 2 ^ (p - 1) = 2 ^ n.log2 := by
  have hn : n ≠ 0 := fun hzero => absurd h (by simp [hzero])
  have hlog := (Nat.le_log2 hn).mpr h
  rw [lastPlace, ← Nat.pow_add]
  congr 1
  omega

/-- And `2 ^ p` last places are the next power of two. -/
theorem two_pow_mul_lastPlace (hp : 0 < p) (h : 2 ^ p ≤ n) :
    2 ^ p * lastPlace p n = 2 ^ (n.log2 + 1) := by
  rw [Nat.pow_succ, ← lastPlace_mul_two_pow hp h, mul_assoc, ← Nat.pow_succ,
    Nat.succ_eq_add_one, Nat.sub_add_cancel hp, mul_comm]

/-! ### What is representable -/

/-- The representable numbers are the multiples of their last place. -/
theorem representable_iff_dvd (hp : 0 < p) : Representable p n ↔ lastPlace p n ∣ n := by
  constructor
  · rintro ⟨m, e, hm, rfl⟩
    rcases Nat.eq_zero_or_pos m with rfl | hpos
    · simp
    · have hlog : (m * 2 ^ e).log2 = m.log2 + e := by
        rw [Nat.log2_eq_iff (by positivity), Nat.add_right_comm, Nat.pow_add, Nat.pow_add]
        exact ⟨Nat.mul_le_mul_right _ (Nat.log2_self_le hpos.ne'),
          Nat.mul_lt_mul_of_pos_right Nat.lt_log2_self (Nat.two_pow_pos e)⟩
      have hbits := (Nat.log2_lt hpos.ne').mpr hm
      exact (Nat.pow_dvd_pow 2 (by omega)).mul_left m
  · rintro ⟨k, hk⟩
    refine ⟨k, n.log2 + 1 - p, ?_, hk.trans (Nat.mul_comm _ _)⟩
    by_contra hlarge
    rw [not_lt] at hlarge
    rcases lt_or_ge n (2 ^ p) with hlt | hge
    · rw [lastPlace_of_lt hp hlt, one_mul] at hk
      omega
    · -- `2 ^ p` last places are more than `n`
      have hle := (Nat.mul_le_mul_left (lastPlace p n) hlarge).trans_eq hk.symm
      rw [mul_comm, two_pow_mul_lastPlace hp hge] at hle
      exact absurd Nat.lt_log2_self hle.not_gt

/-- Numbers of up to `p` bits are. -/
theorem representable_of_lt (h : n < 2 ^ p) : Representable p n := ⟨n, 0, h, by simp⟩

/-- So are the powers of two. -/
theorem representable_two_pow (hp : 0 < p) (e : ℕ) : Representable p (2 ^ e) :=
  ⟨1, e, Nat.one_lt_two_pow hp.ne', by simp⟩

/-! ### Rounding -/

/-- Rounding moves within the last place. -/
theorem div_mul_le_roundSig (p n : ℕ) : n / lastPlace p n * lastPlace p n ≤ roundSig p n := by
  unfold roundSig
  simp only
  split
  · exact Nat.mul_le_mul_right _ (Nat.le_succ _)
  · exact le_rfl

@[inherit_doc div_mul_le_roundSig]
theorem roundSig_le_succ_mul (p n : ℕ) :
    roundSig p n ≤ (n / lastPlace p n + 1) * lastPlace p n := by
  unfold roundSig
  simp only
  split
  · exact le_rfl
  · exact Nat.mul_le_mul_right _ (Nat.le_succ _)

/-- **Rounding is exact on the representable numbers only.** -/
theorem roundSig_eq_self_iff (hp : 0 < p) : roundSig p n = n ↔ Representable p n := by
  rw [representable_iff_dvd hp]
  constructor
  · intro h
    calc lastPlace p n ∣ roundSig p n := Nat.dvd_mul_left _ _
      _ = n := h
  · intro h
    have hpos := lastPlace_pos p n
    have hrem := Nat.mod_eq_zero_of_dvd h
    unfold roundSig
    simp only [hrem]
    rw [if_neg (by omega), Nat.div_mul_cancel h]

/-- Rounding keeps the leading bit. -/
theorem two_pow_log2_le_roundSig (hp : 0 < p) (hn : n ≠ 0) : 2 ^ n.log2 ≤ roundSig p n := by
  rcases lt_or_ge n (2 ^ p) with hlt | hge
  · rw [(roundSig_eq_self_iff hp).mpr (representable_of_lt hlt)]
    exact Nat.log2_self_le hn
  · have hlead := lastPlace_mul_two_pow hp hge
    calc 2 ^ n.log2 = 2 ^ (p - 1) * lastPlace p n := by rw [← hlead, mul_comm]
      _ ≤ n / lastPlace p n * lastPlace p n := by
          apply Nat.mul_le_mul_right
          rw [Nat.le_div_iff_mul_le (lastPlace_pos p n), mul_comm, hlead]
          exact Nat.log2_self_le hn
      _ ≤ roundSig p n := div_mul_le_roundSig p n

/-- Rounding goes up to the next power of two at most. -/
theorem roundSig_le_two_pow (hp : 0 < p) (n : ℕ) : roundSig p n ≤ 2 ^ (n.log2 + 1) := by
  rcases lt_or_ge n (2 ^ p) with hlt | hge
  · rw [(roundSig_eq_self_iff hp).mpr (representable_of_lt hlt)]
    exact Nat.lt_log2_self.le
  · have hmul := two_pow_mul_lastPlace hp hge
    calc roundSig p n ≤ (n / lastPlace p n + 1) * lastPlace p n := roundSig_le_succ_mul p n
      _ ≤ 2 ^ p * lastPlace p n := by
          apply Nat.mul_le_mul_right
          rw [Nat.succ_le_iff, Nat.div_lt_iff_lt_mul (lastPlace_pos p n), hmul]
          exact Nat.lt_log2_self
      _ = 2 ^ (n.log2 + 1) := hmul

/-- What rounding leads to is representable. -/
theorem representable_roundSig (hp : 0 < p) (n : ℕ) : Representable p (roundSig p n) := by
  rcases lt_or_ge n (2 ^ p) with hlt | hge
  · rw [(roundSig_eq_self_iff hp).mpr (representable_of_lt hlt)]
    exact representable_of_lt hlt
  · have htop := two_pow_mul_lastPlace hp hge
    obtain ⟨q, hq⟩ : ∃ q, roundSig p n = q * lastPlace p n := ⟨_, rfl⟩
    have hle : q ≤ 2 ^ p := by
      have hbound := roundSig_le_two_pow hp n
      rw [hq, ← htop] at hbound
      exact Nat.le_of_mul_le_mul_right hbound (lastPlace_pos p n)
    rw [hq]
    rcases hle.lt_or_eq with hlt | rfl
    · exact ⟨q, n.log2 + 1 - p, hlt, rfl⟩
    · rw [htop]
      exact representable_two_pow hp _

/-- **Rounding keeps the order.** -/
theorem roundSig_mono (hp : 0 < p) (h : m ≤ n) : roundSig p m ≤ roundSig p n := by
  rcases Nat.eq_zero_or_pos m with rfl | hm
  · rw [(roundSig_eq_self_iff hp).mpr (representable_of_lt (by positivity))]
    exact Nat.zero_le _
  · have hn : n ≠ 0 := by omega
    have hlog : m.log2 ≤ n.log2 :=
      (Nat.le_log2 hn).mpr ((Nat.log2_self_le hm.ne').trans h)
    rcases hlog.lt_or_eq with hlt | heq
    · -- a power of two stands between them
      calc roundSig p m ≤ 2 ^ (m.log2 + 1) := roundSig_le_two_pow hp m
        _ ≤ 2 ^ n.log2 := Nat.pow_le_pow_right (by norm_num) hlt
        _ ≤ roundSig p n := two_pow_log2_le_roundSig hp hn
    · have hplace : lastPlace p n = lastPlace p m := by rw [lastPlace, lastPlace, heq]
      have hpos := lastPlace_pos p m
      rcases (Nat.div_le_div_right (c := lastPlace p m) h).lt_or_eq with hq | hq
      · calc roundSig p m ≤ (m / lastPlace p m + 1) * lastPlace p m := roundSig_le_succ_mul p m
          _ ≤ n / lastPlace p n * lastPlace p n := by
              rw [hplace]
              exact Nat.mul_le_mul_right _ hq
          _ ≤ roundSig p n := div_mul_le_roundSig p n
      · -- both round to one of the same two numbers
        have hm_split := Nat.div_add_mod m (lastPlace p m)
        have hn_split := Nat.div_add_mod n (lastPlace p m)
        rw [← hq] at hn_split
        have hrem : m % lastPlace p m ≤ n % lastPlace p m := by omega
        unfold roundSig
        simp only [hplace, ← hq]
        apply Nat.mul_le_mul_right
        split
        · rw [if_pos (by omega)]
        · split <;> omega

/-- Rounding does not fall below a representable number. -/
theorem le_roundSig (hp : 0 < p) (hm : Representable p m) (h : m ≤ n) : m ≤ roundSig p n :=
  (roundSig_eq_self_iff hp).mpr hm ▸ roundSig_mono hp h

end

end GuardianStake.Found
