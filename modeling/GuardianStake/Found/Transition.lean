import Mathlib

/-!
# Runs of a transition relation

Runs of a labelled transition relation, recorded with the states they pass through. Nothing here
names a program.

* `Run step s l` — `l` lists the actions taken from `s`, each with the state it leads to.
* `Run.invariant`, `Run.invariant_lastState` — the run lemma: what one step preserves holds in every
  state reached.
* `Run.length_add_measure` — a measure that every step lowers by one counts the steps.
* `Guarded G s l` — every action of the run meets the guard `G` in the state it is taken from.
* `Run.forall_iff_guarded` — **the exact guard**: when a step from a good state leads to a good
  state exactly if it meets `G`, the runs through good states only are the guarded runs.
* `Run.guarded_iff` — guards that agree on the steps taken agree on runs.
-/

namespace GuardianStake.Found

universe u v

variable {σ : Type u} {α : Type v}

/-- `Run step s l`: starting in `s`, the run takes the actions of `l` and passes through the
states recorded with them. -/
inductive Run (step : σ → α → σ → Prop) : σ → List (α × σ) → Prop
  | nil (s : σ) : Run step s []
  | cons {s t : σ} {a : α} {l : List (α × σ)} (hstep : step s a t) (hrest : Run step t l) :
      Run step s ((a, t) :: l)

/-- The state a run ends in. -/
def lastState (s : σ) : List (α × σ) → σ
  | [] => s
  | (_, t) :: l => lastState t l

/-- Every action of the run meets `G` in the state it is taken from. -/
def Guarded (G : σ → α → Prop) : σ → List (α × σ) → Prop
  | _, [] => True
  | s, (a, t) :: l => G s a ∧ Guarded G t l

@[simp] theorem guarded_nil (G : σ → α → Prop) (s : σ) : Guarded G s [] := trivial

@[simp] theorem guarded_cons (G : σ → α → Prop) (s t : σ) (a : α) (l : List (α × σ)) :
    Guarded G s ((a, t) :: l) ↔ G s a ∧ Guarded G t l := Iff.rfl

namespace Run

variable {step : σ → α → σ → Prop} {G : σ → α → Prop} {P : σ → Prop}

/-- The run lemma for guarded runs: if guarded steps keep `P`, every state reached satisfies it. -/
theorem invariant_of_guarded (hstep : ∀ s a t, P s → G s a → step s a t → P t) {s : σ}
    {l : List (α × σ)} (hrun : Run step s l) (hG : Guarded G s l) (hs : P s) :
    ∀ p ∈ l, P p.2 := by
  induction hrun with
  | nil => simp
  | cons h _ ih =>
      obtain ⟨hg, hG⟩ := hG
      have ht := hstep _ _ _ hs hg h
      exact List.forall_mem_cons.mpr ⟨ht, ih hG ht⟩

/-- The run lemma: what every step keeps holds in every state reached. -/
theorem invariant (hstep : ∀ s a t, P s → step s a t → P t) {s : σ} {l : List (α × σ)}
    (hrun : Run step s l) (hs : P s) : ∀ p ∈ l, P p.2 := by
  have hG : Guarded (fun _ _ => True) s l := by
    clear hs
    induction hrun with
    | nil => trivial
    | cons _ _ ih => exact ⟨trivial, ih⟩
  exact hrun.invariant_of_guarded (fun s a t hP _ h => hstep s a t hP h) hG hs

/-- It holds in the state the run ends in. -/
theorem invariant_lastState (hstep : ∀ s a t, P s → step s a t → P t) {s : σ} {l : List (α × σ)}
    (hrun : Run step s l) (hs : P s) : P (lastState s l) := by
  induction hrun with
  | nil => exact hs
  | cons h _ ih => exact ih (hstep _ _ _ hs h)

/-- A measure that every step lowers by one counts the steps of a run. -/
theorem length_add_measure {μ : σ → ℕ} (hμ : ∀ s a t, step s a t → μ t + 1 = μ s) {s : σ}
    {l : List (α × σ)} (hrun : Run step s l) : l.length + μ (lastState s l) = μ s := by
  induction hrun with
  | nil => simp [lastState]
  | cons h _ ih =>
      have hone := hμ _ _ _ h
      rw [List.length_cons, lastState]
      omega

/-- **The exact guard.** If a step from a state with `P` keeps `P` exactly when it meets `G`, then
a run from such a state passes through such states only iff it is guarded. -/
theorem forall_iff_guarded (hstep : ∀ s a t, P s → step s a t → (P t ↔ G s a)) {s : σ}
    {l : List (α × σ)} (hrun : Run step s l) (hs : P s) :
    (∀ p ∈ l, P p.2) ↔ Guarded G s l := by
  induction hrun with
  | nil => simp
  | cons h _ ih =>
      rw [List.forall_mem_cons, guarded_cons]
      have hiff := hstep _ _ _ hs h
      constructor
      · rintro ⟨ht, hl⟩
        exact ⟨hiff.mp ht, (ih ht).mp hl⟩
      · rintro ⟨hg, hl⟩
        have ht := hiff.mpr hg
        exact ⟨ht, (ih ht).mpr hl⟩

/-- Guards that agree on the steps a state can take agree on the runs from it. -/
theorem guarded_iff {H : σ → α → Prop} (hiff : ∀ s a t, step s a t → (G s a ↔ H s a)) {s : σ}
    {l : List (α × σ)} (hrun : Run step s l) : Guarded G s l ↔ Guarded H s l := by
  induction hrun with
  | nil => rfl
  | cons h _ ih => rw [guarded_cons, guarded_cons, hiff _ _ _ h, ih]

end Run

end GuardianStake.Found
