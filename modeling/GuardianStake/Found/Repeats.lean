import GuardianStake.Found.Greedy

/-!
# Greedy covers of lists with repeated items

A greedy cover of a list sorted by falling weight, where items may carry one key several times
(two readings of one thing). Nothing here names a program.

* `nodup_keys_cover_iff_sorted` — the cover takes no key twice iff what precedes a repetition
  always reaches the need.
* `nodup_keys_cover_iff` — **the same told from the unsorted list**: the sort is stable, so what
  precedes an item is what outweighs it and what ties with it and came earlier.
-/

namespace GuardianStake.Found

universe u v w

variable {α : Type u} {β : Type v} {M : Type w} [AddCommMonoid M] [LinearOrder M] {wt : α → M}
  {key : α → β} {need : M}

/-- In a sorted list, what precedes an item is what outweighs it and what ties with it and came
earlier. -/
theorem sum_before_of_sorted {S pre : List α} {v : α} {post : List α}
    (hsorted : S.Pairwise fun a b => wt b ≤ wt a) (hS : S = pre ++ v :: post) :
    (pre.map wt).sum =
      ((S.filter fun a => wt v < wt a).map wt).sum +
        ((pre.filter fun a => wt a = wt v).map wt).sum := by
  subst hS
  obtain ⟨hpre, hpost, hcross⟩ := List.pairwise_append.mp hsorted
  have htail : (v :: post).filter (fun a => wt v < wt a) = [] := by
    apply List.filter_eq_nil_iff.mpr
    intro a ha
    rcases List.mem_cons.mp ha with rfl | ha
    · simp
    · simpa using (List.pairwise_cons.mp hpost).1 a ha
  have hge : ∀ a ∈ pre, wt v ≤ wt a := fun a ha => hcross a ha v List.mem_cons_self
  rw [List.filter_append, htail, List.append_nil]
  clear hpre hpost hcross htail hsorted
  induction pre with
  | nil => simp
  | cons a pre ih =>
      have hrest := ih fun b hb => hge b (List.mem_cons_of_mem _ hb)
      rw [List.map_cons, List.sum_cons, hrest]
      rcases (hge a List.mem_cons_self).lt_or_eq with hlt | heq
      · simp [hlt, hlt.ne', add_assoc]
      · simp [heq, add_left_comm]

/-- Splits of a list at an item of weight `c` are splits of its part of weight `c`. -/
theorem forall_split_iff {L : List α} (hkey : ∀ a ∈ L, ∀ b ∈ L, key a = key b → wt a = wt b)
    (R : α → List α → Prop) :
    (∀ pre v post, L = pre ++ v :: post → 0 < wt v → (∃ u ∈ pre, key u = key v) →
        R v (pre.filter fun a => wt a = wt v)) ↔
      ∀ c, 0 < c → ∀ pre v post, L.filter (fun a => wt a = c) = pre ++ v :: post →
        (∃ u ∈ pre, key u = key v) → R v pre := by
  constructor
  · intro h c hc pre v post hsplit ⟨u, hu, huv⟩
    obtain ⟨l₁, l₂, rfl, hl₁, hl₂⟩ := List.filter_eq_append_iff.mp hsplit
    obtain ⟨m₁, m₂, rfl, hm₁, hv, hm₂⟩ := List.filter_eq_cons_iff.mp hl₂
    have hvc : wt v = c := of_decide_eq_true hv
    have hm₁' : m₁.filter (fun a => wt a = c) = [] := List.filter_eq_nil_iff.mpr hm₁
    have hu' : u ∈ l₁ := by
      rw [← hl₁] at hu
      exact (List.mem_filter.mp hu).1
    have := h (l₁ ++ m₁) v m₂ (by simp) (hvc ▸ hc) ⟨u, by simp [hu'], huv⟩
    rwa [hvc, List.filter_append, hl₁, hm₁', List.append_nil] at this
  · rintro h pre v post rfl hpos ⟨u, hu, huv⟩
    have hwt : wt u = wt v := hkey u (by simp [hu]) v (by simp) huv
    refine h (wt v) hpos _ v (post.filter fun a => wt a = wt v) (by simp) ⟨u, ?_, huv⟩
    exact List.mem_filter.mpr ⟨hu, by simpa using hwt⟩

variable [IsOrderedAddMonoid M]

/-- The cover takes no key twice iff what precedes a repetition always reaches the need. -/
theorem nodup_keys_cover_iff_sorted {S : List α} (hw : ∀ a ∈ S, 0 ≤ wt a) :
    ((cover wt need 0 S).map key).Nodup ↔
      ∀ pre v post, S = pre ++ v :: post → (∃ u ∈ pre, key u = key v) →
        need ≤ (pre.map wt).sum := by
  constructor
  · intro hnodup pre v post hS ⟨u, hu, hkey⟩
    by_contra hshort
    rw [not_le] at hshort
    -- `v` is then taken, and with it the whole of `pre`
    have hlen : pre.length < (cover wt need 0 S).length := by
      rw [lt_length_cover_iff 0 S hw (by simp [hS]), hS, List.take_left, zero_add]
      exact hshort
    have htake : (cover wt need 0 S).take (pre.length + 1) = pre ++ [v] := by
      have hinitial : cover wt need 0 S <+: S := cover_isPrefix 0 S
      obtain ⟨t, ht⟩ := hinitial
      have : (cover wt need 0 S ++ t).take (pre.length + 1) = pre ++ [v] := by
        rw [ht, hS]
        simp [List.take_append]
      rwa [List.take_append_of_le_length hlen] at this
    have hsub : (pre ++ [v]).Sublist (cover wt need 0 S) := htake ▸ List.take_sublist _ _
    have hdup := hnodup.sublist (hsub.map key)
    rw [List.map_append, List.nodup_append] at hdup
    exact hdup.2.2 _ (List.mem_map_of_mem hu) (key v) (by simp) hkey
  · intro h
    rw [List.Nodup, List.pairwise_map, List.pairwise_iff_getElem]
    intro i j hi hj hij hkey
    have hinitial : cover wt need 0 S <+: S := cover_isPrefix 0 S
    have hjS : j < S.length := lt_of_lt_of_le hj hinitial.length_le
    have hiS : i < S.length := hij.trans hjS
    have hshort : 0 + ((S.take j).map wt).sum < need := sum_take_lt_of_lt_length 0 S hj
    rw [zero_add] at hshort
    rw [hinitial.getElem hi, hinitial.getElem hj] at hkey
    refine absurd (h (S.take j) S[j] (S.drop (j + 1)) ?_ ⟨S[i], ?_, hkey⟩) (not_le.mpr hshort)
    · rw [← List.drop_eq_getElem_cons hjS, List.take_append_drop]
    · exact List.mem_take_iff_getElem.mpr ⟨i, by omega, rfl⟩

/-- **No key is taken twice** by the cover of `S`, the stable sort of the positive part of `L`,
iff every repetition in `L` of a key of positive weight is preceded by enough: the items that
outweigh it and the equally heavy ones before it reach the need. -/
theorem nodup_keys_cover_iff {L S : List α} (hsorted : S.Pairwise fun a b => wt b ≤ wt a)
    (hperm : S.Perm (L.filter fun a => 0 < wt a))
    (hties : ∀ c, 0 < c → S.filter (fun a => wt a = c) = L.filter fun a => wt a = c)
    (hkey : ∀ a ∈ L, ∀ b ∈ L, key a = key b → wt a = wt b) :
    ((cover wt need 0 S).map key).Nodup ↔
      ∀ pre v post, L = pre ++ v :: post → 0 < wt v → (∃ u ∈ pre, key u = key v) →
        need ≤ ((L.filter fun a => wt v < wt a).map wt).sum +
          ((pre.filter fun a => wt a = wt v).map wt).sum := by
  have hposS : ∀ a ∈ S, 0 < wt a := by
    intro a ha
    simpa using (List.mem_filter.mp (hperm.mem_iff.mp ha)).2
  have hmemS : ∀ a ∈ S, a ∈ L := fun a ha => (List.mem_filter.mp (hperm.mem_iff.mp ha)).1
  -- what outweighs a positive weight is the same in both lists
  have habove : ∀ c, 0 < c → ((S.filter fun a => c < wt a).map wt).sum =
      ((L.filter fun a => c < wt a).map wt).sum := by
    intro c hc
    rw [((hperm.filter fun a => decide (c < wt a)).map wt).sum_eq, List.filter_filter]
    congr 2
    apply List.filter_congr
    intro a _
    by_cases hca : c < wt a
    · simp [hca, hc.trans hca]
    · simp [hca]
  rw [nodup_keys_cover_iff_sorted fun a ha => (hposS a ha).le,
    forall_split_iff hkey fun v tied =>
      need ≤ ((L.filter fun a => wt v < wt a).map wt).sum + (tied.map wt).sum]
  have hS := forall_split_iff (L := S) (fun a ha b hb => hkey a (hmemS a ha) b (hmemS b hb))
    fun v tied => need ≤ ((S.filter fun a => wt v < wt a).map wt).sum + (tied.map wt).sum
  constructor
  · intro h c hc pre v post hsplit hrep
    have hv : wt v = c := by
      have hmem : v ∈ L.filter fun a => wt a = c := by rw [hsplit]; simp
      simpa using (List.mem_filter.mp hmem).2
    have hall := hS.mp (fun pre v post hsp hpos hr => by
      rw [← sum_before_of_sorted hsorted hsp]
      exact h pre v post hsp hr) c hc pre v post (by rw [hties c hc, hsplit]) hrep
    rwa [habove (wt v) (hv ▸ hc)] at hall
  · intro h pre v post hsp hrep
    have hpos : 0 < wt v := hposS v (by rw [hsp]; simp)
    rw [sum_before_of_sorted hsorted hsp]
    refine hS.mpr ?_ pre v post hsp hpos hrep
    intro c hc pre v post hsplit hr
    have hv : wt v = c := by
      have hmem : v ∈ S.filter fun a => wt a = c := by rw [hsplit]; simp
      simpa using (List.mem_filter.mp hmem).2
    rw [habove (wt v) (hv ▸ hc)]
    exact h c hc pre v post (by rw [← hties c hc, hsplit]) hr

end GuardianStake.Found
