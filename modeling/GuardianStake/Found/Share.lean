import Mathlib

/-!
# Sharing out a total

Two ways of sharing an amount out over a list. Nothing here names a program.

* `handOut quota total given l` — each item gets its quota, the last one whatever is left of the
  total: `sum_handOut` says that the shares add up to the total.
* `sum_floor_le` — floored proportional quotas never exceed the total they are parts of, so the
  last share is not negative; `sub_sum_floor_le` bounds it from above.
* `fill cap left l` — item after item is filled up to its capacity until nothing is left:
  `sum_fill` says that an amount within the total capacity is used up,
  `snd_eq_cap_of_mem_dropLast_fill` that only the last item filled may stay short of its capacity.
-/

namespace GuardianStake.Found

universe u v

variable {α : Type u}

section handOut

variable {M : Type v} [AddCommGroup M] (quota : α → M) (total : M)

/-- Hand out a total of which `given` is gone already: quotas, and the rest to the last item. -/
def handOut : M → List α → List M
  | _, [] => []
  | given, [_] => [total - given]
  | given, a :: b :: l => quota a :: handOut (given + quota a) (b :: l)

variable {quota total}

/-- The shares add up to what was left. -/
theorem sum_handOut (given : M) {l : List α} (hl : l ≠ []) :
    given + (handOut quota total given l).sum = total := by
  induction l generalizing given with
  | nil => exact absurd rfl hl
  | cons a l ih =>
      cases l with
      | nil => simp [handOut]
      | cons b l =>
          rw [handOut, List.sum_cons, ← add_assoc]
          exact ih _ (by simp)

/-- Every share is a quota, or what all quotas but the last leave of the total. -/
theorem forall_mem_handOut {P : M → Prop} (given : M) {l : List α} (hquota : ∀ a ∈ l, P (quota a))
    (hlast : P (total - (given + (l.dropLast.map quota).sum))) :
    ∀ m ∈ handOut quota total given l, P m := by
  induction l generalizing given with
  | nil => simp [handOut]
  | cons a l ih =>
      cases l with
      | nil => simpa [handOut] using hlast
      | cons b l =>
          rw [handOut]
          refine List.forall_mem_cons.mpr ⟨hquota a List.mem_cons_self, ?_⟩
          apply ih _ (fun c hc => hquota c (List.mem_cons_of_mem _ hc))
          rw [List.dropLast_cons_of_ne_nil (by simp), List.map_cons, List.sum_cons] at hlast
          rwa [add_assoc]

/-- All items but the last get their quotas. -/
theorem handOut_concat (given : M) (l : List α) (a : α) :
    handOut quota total given (l ++ [a]) =
      l.map quota ++ [total - (given + (l.map quota).sum)] := by
  induction l generalizing given with
  | nil => simp [handOut]
  | cons b l ih =>
      cases hl : l ++ [a] with
      | nil => simp at hl
      | cons c rest =>
          rw [List.cons_append, hl, handOut, ← hl, ih, List.map_cons, List.sum_cons, add_assoc,
            List.cons_append]

end handOut

/-- Floored parts of `total` in proportion to weights that fill at most `whole` stay within the
total. -/
theorem sum_floor_le {w : α → ℤ} {total whole : ℤ} (htotal : 0 ≤ total) (hwhole : 0 < whole)
    {l : List α} (hsum : (l.map w).sum ≤ whole) :
    (l.map fun a => w a * total / whole).sum ≤ total := by
  have hscaled : (l.map fun a => w a * total / whole).sum * whole ≤ (l.map w).sum * total := by
    clear hsum
    induction l with
    | nil => simp
    | cons a l ih =>
        have hfloor := Int.ediv_mul_le (w a * total) hwhole.ne'
        simp only [List.map_cons, List.sum_cons, add_mul]
        exact add_le_add hfloor ih
  have hbound : (l.map w).sum * total ≤ total * whole := by
    rw [mul_comm total]
    exact mul_le_mul_of_nonneg_right hsum htotal
  exact le_of_mul_le_mul_right (hscaled.trans hbound) hwhole

/-- Each floor loses less than one, so floored parts lose less than one for each item. -/
theorem sum_mul_le_mul_sum_floor {w : α → ℤ} (total : ℤ) {whole : ℤ} (hwhole : 0 < whole)
    (l : List α) :
    (l.map w).sum * total ≤
      whole * (l.map fun a => w a * total / whole).sum + l.length * (whole - 1) := by
  induction l with
  | nil => simp
  | cons a l ih =>
      have hsplit := Int.mul_ediv_add_emod (w a * total) whole
      have hrem := Int.emod_lt_of_pos (w a * total) hwhole
      simp only [List.map_cons, List.sum_cons, List.length_cons, Nat.cast_add, Nat.cast_one]
      rw [add_mul, mul_add, add_mul]
      omega

/-- What floored parts of less than the whole leave for a last item exceeds its own weight by less
than the number of items before it. -/
theorem sub_sum_floor_le {w : α → ℤ} {total whole last : ℤ} (htotal : 0 ≤ total)
    (hlt : total < whole) (hlast : 0 ≤ last) {l : List α} (hsum : (l.map w).sum + last = whole) :
    total - (l.map fun a => w a * total / whole).sum ≤ last + (l.length - 1 : ℕ) := by
  have hloss := sum_mul_le_mul_sum_floor (w := w) total (by omega : 0 < whole) l
  rcases Nat.eq_zero_or_pos l.length with hnil | hpos
  · rw [List.length_eq_zero_iff.mp hnil] at hsum ⊢
    simp at hsum ⊢
    omega
  · generalize (l.map fun a => w a * total / whole).sum = given at hloss ⊢
    have hw : (l.map w).sum = whole - last := by omega
    rw [hw] at hloss
    by_contra hover
    rw [not_le] at hover
    -- then the last item and the losses together would exceed the whole
    have hgiven : given + last + (l.length : ℤ) ≤ total := by omega
    have hscaled := mul_le_mul_of_nonneg_left hgiven (by omega : 0 ≤ whole)
    have hpart : last * total ≤ last * whole := mul_le_mul_of_nonneg_left hlt.le hlast
    have hcount : (1 : ℤ) ≤ l.length := by exact_mod_cast hpos
    nlinarith

section fill

variable (cap : α → ℤ)

/-- Fill items up to their capacities until nothing is left; items that get nothing are left
out. -/
def fill : ℤ → List α → List (α × ℤ)
  | _, [] => []
  | left, a :: l =>
      if left ≤ 0 then []
      else if 0 < min (cap a) left then
        (a, min (cap a) left) :: fill (left - min (cap a) left) l
      else fill (left - min (cap a) left) l

variable {cap}

/-- Every chunk is positive and within its item's capacity. -/
theorem mem_fill {left : ℤ} {l : List α} {p : α × ℤ} (hp : p ∈ fill cap left l) :
    p.1 ∈ l ∧ 0 < p.2 ∧ p.2 ≤ cap p.1 := by
  induction l generalizing left with
  | nil => simp [fill] at hp
  | cons a l ih =>
      unfold fill at hp
      split at hp
      · simp at hp
      · split at hp
        · next hchunk =>
            rcases List.mem_cons.mp hp with rfl | hp
            · exact ⟨List.mem_cons_self, hchunk, min_le_left _ _⟩
            · obtain ⟨hmem, hrest⟩ := ih hp
              exact ⟨List.mem_cons_of_mem _ hmem, hrest⟩
        · obtain ⟨hmem, hrest⟩ := ih hp
          exact ⟨List.mem_cons_of_mem _ hmem, hrest⟩

/-- An amount within the total capacity is used up. -/
theorem sum_fill {left : ℤ} {l : List α} (hcap : ∀ a ∈ l, 0 ≤ cap a) (h0 : 0 ≤ left)
    (hle : left ≤ (l.map cap).sum) : ((fill cap left l).map Prod.snd).sum = left := by
  induction l generalizing left with
  | nil =>
      have hzero : left = 0 := le_antisymm (by simpa using hle) h0
      simp [fill, hzero]
  | cons a l ih =>
      have hl : ∀ b ∈ l, 0 ≤ cap b := fun b hb => hcap b (List.mem_cons_of_mem _ hb)
      have ha := hcap a List.mem_cons_self
      have hrest : 0 ≤ (l.map cap).sum := List.sum_nonneg fun x hx => by
        obtain ⟨b, hb, rfl⟩ := List.mem_map.mp hx
        exact hl b hb
      rw [List.map_cons, List.sum_cons] at hle
      have hind : ((fill cap (left - min (cap a) left) l).map Prod.snd).sum =
          left - min (cap a) left := ih hl (by omega) (by omega)
      unfold fill
      split
      · next hdone =>
          have hzero : left = 0 := le_antisymm hdone h0
          simp [hzero]
      · split
        · rw [List.map_cons, List.sum_cons, hind]
          ring
        · rw [hind]
          omega

/-- The items filled are items of the list, in its order. -/
theorem map_fst_fill_sublist (left : ℤ) (l : List α) :
    ((fill cap left l).map Prod.fst).Sublist l := by
  induction l generalizing left with
  | nil => exact List.Sublist.slnil
  | cons a l ih =>
      unfold fill
      split
      · exact List.nil_sublist _
      · split
        · rw [List.map_cons]
          exact (ih _).cons_cons a
        · exact (ih _).cons a

/-- Every chunk but the last fills its item. -/
theorem snd_eq_cap_of_mem_dropLast_fill {left : ℤ} {l : List α} {p : α × ℤ}
    (hp : p ∈ (fill cap left l).dropLast) : p.2 = cap p.1 := by
  induction l generalizing left with
  | nil => simp [fill] at hp
  | cons a l ih =>
      unfold fill at hp
      split at hp
      · simp at hp
      · split at hp
        · next hchunk =>
            -- a chunk that is not its item's capacity is all that was left
            by_cases hcap : min (cap a) left = cap a
            · cases hrest : fill cap (left - min (cap a) left) l with
              | nil => simp [hrest] at hp
              | cons q rest =>
                  rw [hrest, List.dropLast_cons_of_ne_nil (by simp)] at hp
                  rcases List.mem_cons.mp hp with rfl | hp
                  · exact hcap
                  · exact ih (hrest ▸ hp)
            · have hleft : left - min (cap a) left ≤ 0 := by omega
              have hrest : fill cap (left - min (cap a) left) l = [] := by
                cases l with
                | nil => rfl
                | cons b l => rw [fill, if_pos hleft]
              simp [hrest] at hp
        · exact ih hp

end fill

end GuardianStake.Found
