import Mathlib

/-!
# Unbounded loops with a variant

The general theory of `for (;;)` loops whose body either continues with a new state or leaves
with a result. Nothing here names a program.

* `runFor body n s` — the loop run for at most `n` iterations: `none` when the bound is hit
  before the loop leaves, as an uninstrumented loop would spin.
* `Loop σ ρ` — a body together with a variant: a rank that every continuing iteration lowers.
  Carrying the variant as a field is what makes `Loop.exec` total.
* `Loop.runFor_exec` — **termination**: `rank s + 1` iterations always suffice, and more
  iterations change nothing.
* `Loop.exec_induction` — the invariant rule: what the body keeps on continuing and establishes
  on leaving holds of the result.
* `Loop.exec_rel` — the rule for two loops that run alike until the first one leaves.
-/

namespace GuardianStake.Found

universe u v w

variable {σ : Type u} {ρ : Type v}

/-- At most `n` iterations of a loop body from `s`; `none` if the body never left. -/
def runFor (body : σ → σ ⊕ ρ) : ℕ → σ → Option ρ
  | 0, _ => none
  | n + 1, s =>
      match body s with
      | .inl s' => runFor body n s'
      | .inr r => some r

/-- More iterations never change a result. -/
theorem runFor_mono (body : σ → σ ⊕ ρ) {n m : ℕ} (hnm : n ≤ m) {s : σ} {r : ρ}
    (h : runFor body n s = some r) : runFor body m s = some r := by
  induction n generalizing m s with
  | zero => simp [runFor] at h
  | succ n ih =>
      obtain ⟨m, rfl⟩ : ∃ k, m = k + 1 := ⟨m - 1, by omega⟩
      simp only [runFor] at h ⊢
      cases hb : body s with
      | inl s' =>
          rw [hb] at h
          exact ih (by omega) h
      | inr r' =>
          rw [hb] at h
          exact h

/-- The loop started in `s` leaves. -/
def Terminates (body : σ → σ ⊕ ρ) (s : σ) : Prop := ∃ n r, runFor body n s = some r

/-- A loop body with a variant: `rank` drops on every iteration that continues. -/
structure Loop (σ : Type u) (ρ : Type v) where
  /-- One iteration: continue with a state, or leave with a result. -/
  body : σ → σ ⊕ ρ
  /-- The variant. -/
  rank : σ → ℕ
  /-- Continuing lowers the variant. -/
  rank_lt : ∀ {s s' : σ}, body s = .inl s' → rank s' < rank s

namespace Loop

variable (L : Loop σ ρ)

/-- The loop run under a bound on its rank. -/
def execBelow : (n : ℕ) → (s : σ) → L.rank s < n → ρ
  | 0, _, h => absurd h (Nat.not_lt_zero _)
  | n + 1, s, h =>
      match hb : L.body s with
      | .inl s' => execBelow n s' (Nat.lt_of_lt_of_le (L.rank_lt hb) (Nat.le_of_lt_succ h))
      | .inr r => r

/-- The result of the loop started in `s`. -/
def exec (s : σ) : ρ := L.execBelow (L.rank s + 1) s (Nat.lt_succ_self _)

/-- Any bound above the rank gives the same run, and it is the bounded run of the bare body. -/
theorem runFor_eq_execBelow (n : ℕ) (s : σ) (h : L.rank s < n) :
    runFor L.body n s = some (L.execBelow n s h) := by
  induction n generalizing s with
  | zero => omega
  | succ n ih =>
      rw [runFor, execBelow]
      split
      · next s' hb =>
          have hr : L.rank s' < n := Nat.lt_of_lt_of_le (L.rank_lt hb) (Nat.le_of_lt_succ h)
          rw [ih s' hr]
          split
          · next s'' hb' => cases hb.symm.trans hb'; rfl
          · next r hb' => cases hb.symm.trans hb'
      · next r hb =>
          split
          · next s'' hb' => cases hb.symm.trans hb'
          · next r' hb' => cases hb.symm.trans hb'; rfl

/-- **Termination**: every bound above the rank lets the bare body leave, with `exec`'s result. -/
theorem runFor_exec {n : ℕ} {s : σ} (h : L.rank s < n) : runFor L.body n s = some (L.exec s) :=
  runFor_mono L.body h (L.runFor_eq_execBelow (L.rank s + 1) s (Nat.lt_succ_self _))

/-- A loop with a variant terminates from every state. -/
theorem terminates (s : σ) : Terminates L.body s :=
  ⟨L.rank s + 1, L.exec s, L.runFor_exec (Nat.lt_succ_self _)⟩

/-- Unfolding at an iteration that continues. -/
theorem exec_of_inl {s s' : σ} (h : L.body s = .inl s') : L.exec s = L.exec s' := by
  have hrun : runFor L.body (L.rank s + 1) s = some (L.exec s') := by
    rw [runFor, h]
    exact L.runFor_exec (L.rank_lt h)
  exact Option.some.inj ((L.runFor_exec (Nat.lt_succ_self _)).symm.trans hrun)

/-- Unfolding at an iteration that leaves. -/
theorem exec_of_inr {s : σ} {r : ρ} (h : L.body s = .inr r) : L.exec s = r := by
  have hrun : runFor L.body (L.rank s + 1) s = some r := by rw [runFor, h]
  exact Option.some.inj ((L.runFor_exec (Nat.lt_succ_self _)).symm.trans hrun)

/-- **The invariant rule.** If continuing keeps `I` and leaving from `I` establishes `Q`, the
result of a loop started in `I` satisfies `Q`. The induction is on the rank. -/
theorem exec_induction {I : σ → Prop} {Q : ρ → Prop}
    (hcont : ∀ s s', I s → L.body s = .inl s' → I s')
    (hexit : ∀ s r, I s → L.body s = .inr r → Q r) {s : σ} (hs : I s) : Q (L.exec s) := by
  induction hn : L.rank s using Nat.strong_induction_on generalizing s with
  | _ n ih =>
      cases hb : L.body s with
      | inl s' =>
          rw [L.exec_of_inl hb]
          exact ih (L.rank s') (hn ▸ L.rank_lt hb) (hcont s s' hs hb) rfl
      | inr r =>
          rw [L.exec_of_inr hb]
          exact hexit s r hs hb

/-- **Two loops that run alike** until the first one leaves: what relates its result to the one
the second loop goes on to have from there relates the two results. -/
theorem exec_rel {ρ' : Type w} {L : Loop σ ρ} {M : Loop σ ρ'} {I : σ → Prop} {R : ρ → ρ' → Prop}
    (hcont : ∀ s s', I s → L.body s = .inl s' → M.body s = .inl s' ∧ I s')
    (hexit : ∀ s r, I s → L.body s = .inr r → R r (M.exec s)) {s : σ} (hs : I s) :
    R (L.exec s) (M.exec s) := by
  induction hn : L.rank s using Nat.strong_induction_on generalizing s with
  | _ n ih =>
      cases hb : L.body s with
      | inl s' =>
          obtain ⟨hb', hs'⟩ := hcont s s' hs hb
          rw [L.exec_of_inl hb, M.exec_of_inl hb']
          exact ih (L.rank s') (hn ▸ L.rank_lt hb) hs' rfl
      | inr r =>
          rw [L.exec_of_inr hb]
          exact hexit s r hs hb

/-- The result depends on the body only. -/
theorem exec_congr {L M : Loop σ ρ} (h : L.body = M.body) (s : σ) : L.exec s = M.exec s := by
  apply exec_rel (I := fun _ => True) (R := Eq) _ _ trivial
  · intro s s' _ hb
    exact ⟨h ▸ hb, trivial⟩
  · intro s r _ hb
    exact (M.exec_of_inr (h ▸ hb)).symm

end Loop

end GuardianStake.Found
