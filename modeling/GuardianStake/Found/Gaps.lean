import Mathlib

/-!
# Gaps in a set of numbers

Sets of natural numbers read from zero upwards by a reader that gives up after `g` consecutive
numbers outside the set. Nothing here names a program.

* `Reachable g s i` — no `g` consecutive non-members lie entirely below `i`.
* `TrailingMisses s n c` — `c` counts the non-members just below `n`, as a running counter does.
* `TrailingMisses.reachable`, `TrailingMisses.not_reachable` — the counter decides reachability:
  below `g` the next number is still reachable, at `g` nothing from here on is.
* `Gapless g s` — every member is reachable.
* `Gapless.insert_of_lowest` — adding the lowest free number leaves no gap.
* `Gapless.erase_iff` — **when removing a member opens a gap**: when it was the only member of `g`
  consecutive numbers with another member above them.
-/

namespace GuardianStake.Found

/-- No `g` consecutive numbers outside `s` lie entirely below `i`. -/
def Reachable (g : ℕ) (s : Set ℕ) (i : ℕ) : Prop := ∀ start, start + g ≤ i → ∃ k < g, start + k ∈ s

/-- Every member is reachable. -/
def Gapless (g : ℕ) (s : Set ℕ) : Prop := ∀ i ∈ s, Reachable g s i

/-- The numbers just below `n` that are outside `s` are `c` in number. -/
structure TrailingMisses (s : Set ℕ) (n c : ℕ) : Prop where
  le : c ≤ n
  notMem : ∀ k, n ≤ k + c → k < n → k ∉ s
  maximal : c < n → n - (c + 1) ∈ s

section reachable

variable {g : ℕ} {s : Set ℕ} {i j n c : ℕ}

/-- Below the first `g` numbers nothing is out of reach. -/
theorem reachable_of_lt (h : i < g) : Reachable g s i := fun start hstart => by omega

/-- A number above an unbroken run of members is reachable. -/
theorem reachable_of_forall_lt (hg : 0 < g) (h : ∀ j < i, j ∈ s) : Reachable g s i :=
  fun start hstart => ⟨0, hg, h _ (by omega)⟩

theorem trailingMisses_zero : TrailingMisses s 0 0 :=
  ⟨le_rfl, fun _ _ hk => absurd hk (Nat.not_lt_zero _), fun h => absurd h (Nat.lt_irrefl 0)⟩

/-- A member resets the counter. -/
theorem trailingMisses_of_mem (h : n ∈ s) : TrailingMisses s (n + 1) 0 :=
  ⟨Nat.zero_le _, fun k hk hkn => by omega, fun _ => by simpa using h⟩

/-- A non-member adds one to it. -/
theorem TrailingMisses.succ (h : TrailingMisses s n c) (hn : n ∉ s) :
    TrailingMisses s (n + 1) (c + 1) := by
  refine ⟨Nat.succ_le_succ h.le, fun k hk hkn => ?_, fun hlt => ?_⟩
  · rcases Nat.lt_succ_iff_lt_or_eq.mp hkn with hlt | rfl
    · exact h.notMem k (by omega) hlt
    · exact hn
  · have hmem := h.maximal (by omega)
    rwa [show n + 1 - (c + 1 + 1) = n - (c + 1) by omega]

/-- As long as the counter is below `g`, the next number is reachable if this one is. -/
theorem TrailingMisses.reachable (h : TrailingMisses s (n + 1) c) (hc : c < g)
    (hn : Reachable g s n) : Reachable g s (n + 1) := by
  intro start hstart
  rcases Nat.lt_or_eq_of_le hstart with hlt | heq
  · exact hn start (by omega)
  · -- the window that ends here is longer than the run of misses
    have hmem := h.maximal (by omega)
    refine ⟨g - (c + 1), by omega, ?_⟩
    rwa [show start + (g - (c + 1)) = n + 1 - (c + 1) by omega]

/-- Once the counter is at `g`, nothing from here on is reachable. -/
theorem TrailingMisses.not_reachable (h : TrailingMisses s n c) (hc : g ≤ c) (hi : n ≤ i) :
    ¬Reachable g s i := by
  intro hreach
  have hle := h.le
  obtain ⟨k, hk, hmem⟩ := hreach (n - g) (by omega)
  exact h.notMem _ (by omega) (by omega) hmem

end reachable

section gapless

variable {g : ℕ} {s : Set ℕ} {i : ℕ}

theorem gapless_empty : Gapless g ∅ := fun _ hi => absurd hi (Set.notMem_empty _)

/-- Reachability survives the addition of members. -/
theorem Reachable.mono {t : Set ℕ} (h : Reachable g s i) (hst : s ⊆ t) : Reachable g t i :=
  fun start hstart =>
    let ⟨k, hk, hmem⟩ := h start hstart
    ⟨k, hk, hst hmem⟩

/-- Adding the lowest free number leaves no gap. -/
theorem Gapless.insert_of_lowest (h : Gapless g s) (hg : 0 < g) (hi : ∀ j < i, j ∈ s) :
    Gapless g (insert i s) := by
  intro j hj
  have hsub : s ⊆ insert i s := Set.subset_insert i s
  rcases hj with rfl | hj
  · exact (reachable_of_forall_lt hg hi).mono hsub
  · exact (h j hj).mono hsub

/-- `i` is the only member of `g` consecutive numbers with another member above them. -/
def KeepsAbove (g : ℕ) (s : Set ℕ) (i : ℕ) : Prop :=
  ∃ start j, start ≤ i ∧ i < start + g ∧ start + g ≤ j ∧ j ∈ s ∧
    ∀ k, start ≤ k → k < start + g → k ∈ s → k = i

/-- **When removing a member opens a gap.** -/
theorem Gapless.erase_iff (h : Gapless g s) : Gapless g (s \ {i}) ↔ ¬KeepsAbove g s i := by
  constructor
  · rintro herase ⟨start, j, hstart, hi, hj, hjs, honly⟩
    obtain ⟨k, hk, hks, hne⟩ := herase j ⟨hjs, by rintro rfl; omega⟩ start hj
    exact hne (honly _ (by omega) (by omega) hks)
  · rintro hkeeps j ⟨hjs, hji⟩ start hstart
    by_contra hnone
    push Not at hnone
    obtain ⟨k, hk, hks⟩ := h j hjs start hstart
    have honly : ∀ m, start ≤ m → m < start + g → m ∈ s → m = i := by
      intro m hm hmg hms
      by_contra hne
      exact hnone (m - start) (by omega) (by rw [Nat.add_sub_cancel' hm]; exact ⟨hms, hne⟩)
    have hki := honly _ (by omega) (by omega) hks
    exact hkeeps ⟨start, j, by omega, by omega, hstart, hjs, honly⟩

end gapless

end GuardianStake.Found
