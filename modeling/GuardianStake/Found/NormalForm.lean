import Mathlib

/-!
# Tables keyed by texts with several spellings

Keys that stand for values, several for one value, one of them its normal form. Nothing here names
a program.

* `NormalForm value norm` — `norm` picks one spelling of each value.
* `find?_of_norm_eq`, `find?_of_norm_ne` — **in a table with normal keys**, a normal key is found
  by its spelling iff it is found by its value, and no other key is found by its spelling.
* `forall₂_filter_filterMap_iff` — when a lookup that may miss entries keeps all it should.
-/

namespace GuardianStake.Found

universe u v w

/-! ## Spellings -/

section spelling

variable {κ : Type u} {ν : Type v} {α : Type w} {value : κ → Option ν} {norm : κ → κ} {k k' : κ}

/-- A normal form of the keys that have a value: a spelling of the same value, the same one for
all of its spellings. -/
structure NormalForm (value : κ → Option ν) (norm : κ → κ) : Prop where
  value_norm : ∀ {k}, (value k).isSome → value (norm k) = value k
  norm_eq : ∀ {k k'}, (value k).isSome → value k = value k' → norm k = norm k'

/-- Normal keys of one value are one key. -/
theorem NormalForm.eq_of_value_eq (h : NormalForm value norm) (hk : (value k).isSome)
    (hnorm : norm k = k) (hnorm' : norm k' = k') (heq : value k = value k') : k = k' := by
  rw [← hnorm, ← hnorm', h.norm_eq hk heq]

variable [DecidableEq κ] [DecidableEq ν] {l : List (κ × α)}

/-- A normal key is found by its spelling iff it is found by its value. -/
theorem find?_of_norm_eq (h : NormalForm value norm) (hkeys : ∀ e ∈ l, norm e.1 = e.1)
    (hk : (value k).isSome) (hnorm : norm k = k) :
    (l.find? fun e => e.1 = k) = l.find? fun e => value e.1 = value k := by
  induction l with
  | nil => rfl
  | cons e l ih =>
      have hiff : e.1 = k ↔ value e.1 = value k := by
        refine ⟨congrArg value, fun heq => ?_⟩
        exact (h.eq_of_value_eq hk hnorm (hkeys e List.mem_cons_self) heq.symm).symm
      rw [List.find?_cons, List.find?_cons, decide_eq_decide.mpr hiff,
        ih fun e he => hkeys e (List.mem_cons_of_mem _ he)]

/-- A key that is not normal is not found by its spelling. -/
theorem find?_of_norm_ne (hkeys : ∀ e ∈ l, norm e.1 = e.1) (hnorm : norm k ≠ k) :
    (l.find? fun e => e.1 = k) = none := by
  apply List.find?_eq_none.mpr
  intro e he
  rw [decide_eq_true_eq]
  rintro rfl
  exact hnorm (hkeys e he)

end spelling

/-! ## Entries kept -/

section kept

variable {α : Type u} {β : Type v} {l : List α} {known : α → Bool} {f : α → Option β}
  {R : α → β → Prop}

/-- What is kept is at most what is known. -/
theorem length_filterMap_le_filter (h : ∀ a ∈ l, ∀ b, f a = some b → known a = true) :
    (l.filterMap f).length ≤ (l.filter known).length := by
  induction l with
  | nil => exact le_rfl
  | cons a l ih =>
      have ih := ih fun a ha => h a (List.mem_cons_of_mem _ ha)
      cases hf : f a with
      | none =>
          rw [List.filterMap_cons_none hf]
          exact ih.trans ((List.sublist_cons_self a l).filter known).length_le
      | some b =>
          rw [List.filterMap_cons_some hf, List.filter_cons_of_pos (h a List.mem_cons_self b hf)]
          exact Nat.succ_le_succ ih

/-- **The known entries are kept, in order**, iff none of them is missed. -/
theorem forall₂_filter_filterMap_iff
    (h : ∀ a ∈ l, ∀ b, f a = some b → known a = true ∧ R a b) :
    List.Forall₂ R (l.filter known) (l.filterMap f) ↔
      ∀ a ∈ l, known a = true → (f a).isSome = true := by
  induction l with
  | nil => simp
  | cons a l ih =>
      have htail : ∀ a ∈ l, ∀ b, f a = some b → known a = true ∧ R a b :=
        fun a ha => h a (List.mem_cons_of_mem _ ha)
      rw [List.forall_mem_cons, ← ih htail]
      cases hf : f a with
      | some b =>
          obtain ⟨hknown, hR⟩ := h a List.mem_cons_self b hf
          rw [List.filterMap_cons_some hf, List.filter_cons_of_pos hknown, List.forall₂_cons]
          simp [hR]
      | none =>
          rw [List.filterMap_cons_none hf]
          cases hknown : known a with
          | false =>
              rw [List.filter_cons_of_neg (by simp [hknown])]
              simp
          | true =>
              -- one entry too few is kept
              rw [List.filter_cons_of_pos hknown]
              have hlt := length_filterMap_le_filter fun a ha b hb => (htail a ha b hb).1
              simp only [Option.isSome_none, Bool.false_eq_true, imp_false, not_true_eq_false,
                false_and, iff_false]
              intro hall
              have hlength := hall.length_eq
              rw [List.length_cons] at hlength
              omega

end kept

end GuardianStake.Found
