import Mathlib

/-!
# Covering a need greedily

Taking weighted items from a list until their weights reach a need. Nothing here names a
program; weights live in any ordered additive group.

* `cover w need acc l` — the items taken from `l` when `acc` has been gathered already: stop as
  soon as the gathered weight reaches `need`.
* `cover_reaches_iff` — the taken items reach the need iff the whole list does.
* `cover_isPrefix_of_reaches` — what is taken is the shortest prefix that reaches the need.
* `lt_length_cover_iff` — **which items are taken**: the item at position `i` is taken iff what
  lies before it does not reach the need.
* `sum_le_sum_take` — the exchange argument: in a list sorted by falling weight no `k` items
  outweigh the first `k`.
* `cover_minimal` — **minimality**: from such a list, no selection with fewer items than the
  greedy one reaches the need.
-/

namespace GuardianStake.Found

universe u v

variable {α : Type u} {M : Type v}

section cover

variable [AddCommMonoid M] [LinearOrder M] (w : α → M) (need : M)

/-- Take items while the gathered weight is short of `need`. -/
def cover : M → List α → List α
  | _, [] => []
  | acc, a :: l => if need ≤ acc then [] else a :: cover (acc + w a) l

variable {w need}

/-- Once the need is met nothing is taken. -/
theorem cover_of_le {acc : M} (h : need ≤ acc) (l : List α) : cover w need acc l = [] := by
  cases l <;> simp [cover, h]

/-- While the need is not met the next item is taken. -/
theorem cover_cons_of_lt {acc : M} (h : acc < need) (a : α) (l : List α) :
    cover w need acc (a :: l) = a :: cover w need (acc + w a) l := by
  simp [cover, not_le.mpr h]

/-- What is taken is a prefix of the list. -/
theorem cover_isPrefix (acc : M) (l : List α) : cover w need acc l <+: l := by
  induction l generalizing acc with
  | nil => simp [cover]
  | cons a l ih =>
      rcases le_or_gt need acc with h | h
      · simp [cover_of_le h]
      · rw [cover_cons_of_lt h]
        exact List.cons_prefix_cons.mpr ⟨rfl, ih _⟩

/-- What is taken, as the first so many items. -/
theorem cover_eq_take (acc : M) (l : List α) :
    cover w need acc l = l.take (cover w need acc l).length :=
  List.prefix_iff_eq_take.mp (cover_isPrefix acc l)

/-- Covering with mapped items. -/
theorem cover_map {β : Type*} (f : β → α) (acc : M) (l : List β) :
    cover w need acc (l.map f) = (cover (fun b => w (f b)) need acc l).map f := by
  induction l generalizing acc with
  | nil => rfl
  | cons b l ih =>
      rcases le_or_gt need acc with h | h
      · simp [cover_of_le h]
      · rw [List.map_cons, cover_cons_of_lt h, cover_cons_of_lt h, ih, List.map_cons]

/-- Short of the last taken item the need is not met. -/
theorem sum_take_lt_of_lt_length {k : ℕ} (acc : M) (l : List α)
    (h : k < (cover w need acc l).length) : acc + ((l.take k).map w).sum < need := by
  induction l generalizing acc k with
  | nil => simp [cover] at h
  | cons a l ih =>
      rcases le_or_gt need acc with hle | hlt
      · simp [cover_of_le hle] at h
      · rw [cover_cons_of_lt hlt] at h
        cases k with
        | zero => simpa using hlt
        | succ k =>
            have hk := ih (acc + w a) (k := k) (by simpa using h)
            simpa [add_assoc] using hk

/-- A prefix that reaches the need contains what is taken. -/
theorem cover_isPrefix_of_reaches {t l : List α} (acc : M) (ht : t <+: l)
    (hreach : need ≤ acc + (t.map w).sum) : cover w need acc l <+: t := by
  refine List.prefix_of_prefix_length_le (cover_isPrefix acc l) ht (not_lt.mp fun hlt => ?_)
  have hshort := sum_take_lt_of_lt_length acc l hlt
  rw [← List.prefix_iff_eq_take.mp ht] at hshort
  exact absurd hreach (not_le.mpr hshort)

/-- A cover that reaches a greater need is the cover for that need as well. -/
theorem cover_eq_of_reaches {more : M} (hle : need ≤ more) (acc : M) (l : List α)
    (hreach : more ≤ acc + ((cover w need acc l).map w).sum) :
    cover w more acc l = cover w need acc l := by
  induction l generalizing acc with
  | nil => rfl
  | cons a l ih =>
      rcases le_or_gt more acc with hmore | hmore
      · rw [cover_of_le hmore, cover_of_le (hle.trans hmore)]
      rcases le_or_gt need acc with hneed | hneed
      · rw [cover_of_le hneed] at hreach
        exact absurd hmore (not_lt.mpr (by simpa using hreach))
      · rw [cover_cons_of_lt hneed] at hreach
        rw [cover_cons_of_lt hmore, cover_cons_of_lt hneed,
          ih (acc + w a) (by simpa [add_assoc] using hreach)]

/-- A cover that leaves items behind reaches the need. -/
theorem reaches_of_length_lt (acc : M) (l : List α)
    (h : (cover w need acc l).length < l.length) :
    need ≤ acc + ((cover w need acc l).map w).sum := by
  induction l generalizing acc with
  | nil => simp at h
  | cons a l ih =>
      rcases le_or_gt need acc with hle | hlt
      · simpa [cover_of_le hle] using hle
      · rw [cover_cons_of_lt hlt] at h ⊢
        simpa [add_assoc] using ih (acc + w a) (by simpa using h)

end cover

/-- A list in which no item with `p` follows one without it is its `p`-part and then the rest. -/
theorem filter_append_filter_not {p : α → Bool} {l : List α}
    (h : l.Pairwise fun a b => p b = true → p a = true) :
    l.filter p ++ l.filter (fun a => !p a) = l := by
  induction l with
  | nil => rfl
  | cons a l ih =>
      obtain ⟨ha, hl⟩ := List.pairwise_cons.mp h
      cases hp : p a with
      | true => simpa [hp] using ih hl
      | false =>
          have hnone : l.filter p = [] := List.filter_eq_nil_iff.mpr fun b hb hpb => by
            simpa [hp] using ha b hb hpb
          have hrest := ih hl
          rw [hnone, List.nil_append] at hrest
          simp [hp, hnone, hrest]

section ordered

variable [AddCommMonoid M] [LinearOrder M] [IsOrderedAddMonoid M] {w : α → M} {need : M}

/-- Non-negative weights sum to something non-negative. -/
theorem sum_map_nonneg {l : List α} (hw : ∀ a ∈ l, 0 ≤ w a) : 0 ≤ (l.map w).sum :=
  List.sum_nonneg fun x hx => by
    obtain ⟨a, ha, rfl⟩ := List.mem_map.mp hx
    exact hw a ha

/-- The taken items reach the need iff the whole list does. -/
theorem cover_reaches_iff (acc : M) (l : List α) (hw : ∀ a ∈ l, 0 ≤ w a) :
    need ≤ acc + ((cover w need acc l).map w).sum ↔ need ≤ acc + (l.map w).sum := by
  induction l generalizing acc with
  | nil => simp [cover]
  | cons a l ih =>
      have hl : ∀ b ∈ l, 0 ≤ w b := fun b hb => hw b (List.mem_cons_of_mem _ hb)
      rcases le_or_gt need acc with hle | hlt
      · have hsum := sum_map_nonneg (w := w) hw
        simp only [cover_of_le hle, List.map_nil, List.sum_nil, add_zero]
        exact ⟨fun h => h.trans (le_add_of_nonneg_right hsum), fun _ => hle⟩
      · rw [cover_cons_of_lt hlt]
        simpa [add_assoc] using ih (acc + w a) hl

/-- **Which items are taken**: position `i` is taken iff the items before it fall short. -/
theorem lt_length_cover_iff (acc : M) (l : List α) (hw : ∀ a ∈ l, 0 ≤ w a) {i : ℕ}
    (hi : i < l.length) :
    i < (cover w need acc l).length ↔ acc + ((l.take i).map w).sum < need := by
  refine ⟨sum_take_lt_of_lt_length acc l, fun h => ?_⟩
  by_contra hlen
  have hreach : need ≤ acc + ((cover w need acc l).map w).sum :=
    reaches_of_length_lt acc l (by omega)
  -- the cover is a prefix of the first `i` items, which fall short
  have hsub : (cover w need acc l).Sublist (l.take i) := by
    rw [cover_eq_take acc l]
    exact List.take_sublist_take_left (by omega)
  have hle : acc + ((cover w need acc l).map w).sum ≤ acc + ((l.take i).map w).sum := by
    gcongr
    exact (hsub.map w).sum_le_sum
      (List.forall_mem_map.mpr fun a ha => hw a (List.mem_of_mem_take ha))
  exact absurd (hreach.trans hle) (not_le.mpr h)

/-! ### The exchange argument -/

/-- In a list of falling non-negative weights, a sublist of at most `k` items weighs no more than
the first `k` items. -/
theorem sum_le_sum_take_of_sublist {l : List α} (hsorted : l.Pairwise fun a b => w b ≤ w a)
    (hw : ∀ a ∈ l, 0 ≤ w a) {t : List α} (ht : t.Sublist l) {k : ℕ} (hk : t.length ≤ k) :
    (t.map w).sum ≤ ((l.take k).map w).sum := by
  induction l generalizing t k with
  | nil => simp [List.sublist_nil.mp ht]
  | cons a l ih =>
      have hl : ∀ b ∈ l, 0 ≤ w b := fun b hb => hw b (List.mem_cons_of_mem _ hb)
      have hsl := (List.pairwise_cons.mp hsorted).2
      cases t with
      | nil => simpa using sum_map_nonneg fun b hb => hw b (List.mem_of_mem_take hb)
      | cons b t =>
          obtain ⟨k, rfl⟩ : ∃ n, k = n + 1 := ⟨k - 1, by simp at hk; omega⟩
          have htl : t.Sublist l := by
            cases ht with
            | cons _ h => exact (List.sublist_cons_self b t).trans h
            | cons_cons _ h => exact h
          -- the head of the selection may be exchanged for the head of the list
          have hba : w b ≤ w a := by
            rcases List.mem_cons.mp (ht.subset List.mem_cons_self) with rfl | hb
            · exact le_rfl
            · exact (List.pairwise_cons.mp hsorted).1 b hb
          have htail := ih hsl hl htl (k := k) (by simpa using hk)
          simp only [List.map_cons, List.sum_cons, List.take_succ_cons]
          gcongr

/-- The exchange argument for selections in any order. -/
theorem sum_le_sum_take {l : List α} (hsorted : l.Pairwise fun a b => w b ≤ w a)
    (hw : ∀ a ∈ l, 0 ≤ w a) {t : List α} (ht : t.Subperm l) {k : ℕ} (hk : t.length ≤ k) :
    (t.map w).sum ≤ ((l.take k).map w).sum := by
  obtain ⟨t', hperm, hsub⟩ := ht
  rw [← (hperm.map w).sum_eq]
  exact sum_le_sum_take_of_sublist hsorted hw hsub (hperm.length_eq ▸ hk)

/-- **Minimality.** From a list of falling non-negative weights, no selection with fewer items
than the greedy one reaches the need. -/
theorem cover_minimal {l : List α} (hsorted : l.Pairwise fun a b => w b ≤ w a)
    (hw : ∀ a ∈ l, 0 ≤ w a) {t : List α} (ht : t.Subperm l)
    (hlen : t.length < (cover w need 0 l).length) : (t.map w).sum < need := by
  have hshort : 0 + ((l.take t.length).map w).sum < need := sum_take_lt_of_lt_length 0 l hlen
  rw [zero_add] at hshort
  exact lt_of_le_of_lt (sum_le_sum_take hsorted hw ht le_rfl) hshort

end ordered

end GuardianStake.Found
