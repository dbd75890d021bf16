import Mathlib

/-!
# Counted loops that fill a table

Loops over `0, …, n - 1` whose body may fail, and tables they fill in order. Nothing here names a
program.

* `forRange n body s` — the body at `0`, then at `1`, up to `n - 1`; the first error ends it.
* `forRange_eq_ok` — **the invariant rule**: what every iteration establishes from what the one
  before left, the loop does.
* `exists_of_forRange_eq_ok` — a loop that succeeds ran its body at every index.
* `FilledTo R k out` — the first `k` entries of a table are right; `FilledTo.set` fills the next.
-/

namespace GuardianStake.Found

universe u v

/-! ## The loop -/

section loop

variable {ε : Type u} {σ : Type v} {n i : ℕ} {body : ℕ → σ → Except ε σ} {s s' : σ}

/-- The body at `0, …, n - 1`, until it fails. -/
def forRange (n : ℕ) (body : ℕ → σ → Except ε σ) (s : σ) : Except ε σ :=
  (List.range n).foldlM (fun s i => body i s) s

@[simp] theorem forRange_zero : forRange 0 body s = .ok s := rfl

/-- The last iteration. -/
theorem forRange_succ : forRange (n + 1) body s = (forRange n body s).bind (body n) := by
  rw [forRange, List.range_succ, List.foldlM_append]
  cases h : (List.range n).foldlM (fun s i => body i s) s with
  | error e => simp [forRange, h, bind, Except.bind]
  | ok t =>
      simp only [forRange, h, bind, Except.bind, List.foldlM_cons, List.foldlM_nil]
      cases body n t <;> rfl

/-- The last iteration of a loop that succeeds. -/
theorem forRange_succ_eq_ok :
    forRange (n + 1) body s = .ok s' ↔ ∃ t, forRange n body s = .ok t ∧ body n t = .ok s' := by
  rw [forRange_succ]
  cases forRange n body s <;> simp [Except.bind]

/-- **The invariant rule.** -/
theorem forRange_eq_ok {I : ℕ → σ → Prop} (hs : I 0 s)
    (hstep : ∀ i < n, ∀ t, I i t → ∃ t', body i t = .ok t' ∧ I (i + 1) t') :
    ∃ s', forRange n body s = .ok s' ∧ I n s' := by
  induction n with
  | zero => exact ⟨s, rfl, hs⟩
  | succ n ih =>
      obtain ⟨t, hrun, ht⟩ := ih fun i hi => hstep i (by omega)
      obtain ⟨s', hbody, hs'⟩ := hstep n (by omega) t ht
      exact ⟨s', forRange_succ_eq_ok.mpr ⟨t, hrun, hbody⟩, hs'⟩

/-- A loop that succeeds ran its body at every index. -/
theorem exists_of_forRange_eq_ok (h : forRange n body s = .ok s') (hi : i < n) :
    ∃ t t', body i t = .ok t' := by
  induction n generalizing s' with
  | zero => omega
  | succ n ih =>
      obtain ⟨t, hrun, hbody⟩ := forRange_succ_eq_ok.mp h
      by_cases heq : i = n
      · exact ⟨t, s', heq ▸ hbody⟩
      · exact ih hrun (by omega)

end loop

/-! ## The table -/

section table

variable {β : Type u} {R : ℕ → β → Prop} {out : List β} {k : ℕ} {b : β}

/-- The first `k` entries of a table are there and as `R` says. -/
def FilledTo (R : ℕ → β → Prop) (k : ℕ) (out : List β) : Prop :=
  ∀ j < k, ∃ b, out[j]? = some b ∧ R j b

/-- Nothing is asked of no entries. -/
theorem filledTo_zero : FilledTo R 0 out := fun _ hj => absurd hj (Nat.not_lt_zero _)

/-- The next entry is filled in. -/
theorem FilledTo.set (h : FilledTo R k out) (hk : k < out.length) (hb : R k b) :
    FilledTo R (k + 1) (out.set k b) := by
  intro j hj
  rcases Nat.lt_succ_iff_lt_or_eq.mp hj with hlt | rfl
  · rw [List.getElem?_set_ne (by omega)]
    exact h j hlt
  · exact ⟨b, by rw [List.getElem?_set_self hk], hb⟩

end table

end GuardianStake.Found
