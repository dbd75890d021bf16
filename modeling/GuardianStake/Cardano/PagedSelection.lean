import GuardianStake.Cardano.CoinSelection

/-!
# Paged coin selection: soundness, completeness, minimality

`selectUtxosPaged` over a sequence of pages, in terms of the pages alone.

* `firstPage P n` — the first of the pages `1, …, n` with `P`, else page `n`. The last page the
  collector may read is `scanEnd`, the one it stops at is `stopPage`.
* `collectPages_eq` — the collector returns the pages up to `stopPage` and their spendable total.
* `selectUtxosPaged_of_funded`, `selectUtxosPaged_of_short` — **the whole call**: the greedy
  selection from those pages, or `INVALID_AMOUNT`.
* `selectUtxosPaged_sound_complete_minimal` — what that says about the returned inputs.
-/

namespace GuardianStake.Cardano

open Sdk Found

/-! ## The pages a call reads -/

/-- The UTXOs on the pages `1, …, k`, in the order they are read. -/
def pagesRead (pages : ℕ → List BlockfrostUtxo) (k : ℕ) : List BlockfrostUtxo :=
  (List.range' 1 k).flatMap pages

/-- The first of the pages `1, …, n` that satisfies `P`; page `n` if none does. -/
def firstPage (P : ℕ → Bool) (n : ℕ) : ℕ := ((List.range' 1 n).find? P).getD n

/-- The first short page or the last page allowed, whichever comes first. -/
def scanEnd (pages : ℕ → List BlockfrostUtxo) (pageSize maxPages : ℕ) : ℕ :=
  firstPage (fun p => (pages p).length < pageSize) maxPages

/-- The page the collector stops at: the target is met, or the page is short, or it is the last
one allowed. -/
def stopPage (pages : ℕ → List BlockfrostUtxo) (target : ℤ) (pageSize maxPages : ℕ) : ℕ :=
  firstPage
    (fun p => target ≤ spendableTotal (pagesRead pages p) || (pages p).length < pageSize) maxPages

section firstPage

variable {P Q : ℕ → Bool} {n p : ℕ}

theorem firstPage_le (P : ℕ → Bool) (n : ℕ) : firstPage P n ≤ n := by
  unfold firstPage
  cases h : (List.range' 1 n).find? P with
  | none => exact le_rfl
  | some i =>
      have hmem := List.mem_range'_1.mp (List.mem_of_find?_eq_some h)
      simp only [Option.getD_some]
      omega

/-- No page before the first one satisfies `P`. -/
theorem not_of_lt_firstPage (h1 : 1 ≤ p) (h : p < firstPage P n) : P p = false := by
  have hle := firstPage_le P n
  unfold firstPage at h hle
  cases hfind : (List.range' 1 n).find? P with
  | none =>
      have hnone := List.find?_range'_eq_none.mp hfind p h1 (by omega)
      simpa using hnone
  | some i =>
      rw [hfind] at h
      have hbefore := (List.find?_range'_eq_some.mp hfind).2.2 p h1 h
      simpa using hbefore

/-- The first page satisfies `P`, unless it is just the last. -/
theorem firstPage_spec (P : ℕ → Bool) (n : ℕ) :
    P (firstPage P n) = true ∨ firstPage P n = n := by
  unfold firstPage
  cases h : (List.range' 1 n).find? P with
  | none => exact Or.inr rfl
  | some i => exact Or.inl (List.find?_some h)

/-- Among some pages there is a first one. -/
theorem firstPage_pos (P : ℕ → Bool) (hn : 1 ≤ n) : 1 ≤ firstPage P n := by
  unfold firstPage
  cases h : (List.range' 1 n).find? P with
  | none => exact hn
  | some i => exact (List.mem_range'_1.mp (List.mem_of_find?_eq_some h)).1

/-- The first page is the one page with these properties. -/
theorem firstPage_eq (hle : p ≤ n) (hbefore : ∀ q, 1 ≤ q → q < p → P q = false)
    (hat : (1 ≤ p ∧ P p = true) ∨ p = n) : firstPage P n = p := by
  rcases Nat.eq_zero_or_pos n with rfl | hn
  · exact (Nat.le_zero.mp hle).symm
  have h1 := firstPage_pos P hn
  rcases lt_trichotomy (firstPage P n) p with hlt | heq | hgt
  · rcases firstPage_spec P n with hP | hmax
    · exact absurd hP (by simp [hbefore _ h1 hlt])
    · omega
  · exact heq
  · rcases hat with ⟨hp, hP⟩ | rfl
    · exact absurd (not_of_lt_firstPage hp hgt) (by simp [hP])
    · exact absurd (firstPage_le P p) (not_le.mpr hgt)

/-- A weaker condition is met no later. -/
theorem firstPage_le_firstPage (h : ∀ q, P q = true → Q q = true) (n : ℕ) :
    firstPage Q n ≤ firstPage P n := by
  rcases Nat.eq_zero_or_pos n with rfl | hn
  · exact le_rfl
  by_contra hlt
  rw [not_le] at hlt
  rcases firstPage_spec P n with hP | hmax
  · exact absurd (h _ hP) (by simp [not_of_lt_firstPage (firstPage_pos P hn) hlt])
  · have hle := firstPage_le Q n
    omega

end firstPage

variable {pages : ℕ → List BlockfrostUtxo}

@[simp] theorem pagesRead_zero : pagesRead pages 0 = [] := rfl

theorem pagesRead_succ (k : ℕ) : pagesRead pages (k + 1) = pagesRead pages k ++ pages (k + 1) := by
  simp [pagesRead, List.range'_1_concat, Nat.add_comm]

/-- Reading on reads no less. -/
theorem pagesRead_isPrefix {j k : ℕ} (h : j ≤ k) : pagesRead pages j <+: pagesRead pages k := by
  obtain ⟨d, rfl⟩ := Nat.exists_eq_add_of_le h
  induction d with
  | zero => exact List.prefix_rfl
  | succ d ih =>
      have hstep : pagesRead pages (j + d) <+: pagesRead pages (j + d + 1) := by
        rw [pagesRead_succ]
        exact List.prefix_append _ _
      exact (ih (by omega)).trans hstep

theorem mem_pagesRead {k : ℕ} {u : BlockfrostUtxo} :
    u ∈ pagesRead pages k ↔ ∃ p, 1 ≤ p ∧ p ≤ k ∧ u ∈ pages p := by
  simp only [pagesRead, List.mem_flatMap, List.mem_range'_1]
  constructor
  · rintro ⟨p, ⟨h1, h2⟩, hu⟩
    exact ⟨p, h1, by omega, hu⟩
  · rintro ⟨p, h1, h2, hu⟩
    exact ⟨p, ⟨h1, by omega⟩, hu⟩

section wellFormed

variable (hwf : ∀ p, ∀ u ∈ pages p, u.WellFormed)
include hwf

theorem wellFormed_pagesRead (k : ℕ) : ∀ u ∈ pagesRead pages k, u.WellFormed := by
  intro u hu
  obtain ⟨p, -, -, hp⟩ := mem_pagesRead.mp hu
  exact hwf p u hp

/-- The spendable total grows from page to page. -/
theorem spendableTotal_pagesRead_mono {j k : ℕ} (h : j ≤ k) :
    spendableTotal (pagesRead pages j) ≤ spendableTotal (pagesRead pages k) :=
  ((pagesRead_isPrefix h).sublist.map _).sum_le_sum (List.forall_mem_map.mpr fun u hu =>
    spendable_nonneg (wellFormed_pagesRead hwf k u hu))

/-- The pages the collector reads are enough iff those it may read are. -/
theorem le_spendableTotal_stopPage_iff (target : ℤ) (pageSize maxPages : ℕ) :
    target ≤ spendableTotal (pagesRead pages (stopPage pages target pageSize maxPages)) ↔
      target ≤ spendableTotal (pagesRead pages (scanEnd pages pageSize maxPages)) := by
  have hle : stopPage pages target pageSize maxPages ≤ scanEnd pages pageSize maxPages :=
    firstPage_le_firstPage (fun q hq => by simp_all) maxPages
  refine ⟨fun h => h.trans (spendableTotal_pagesRead_mono hwf hle), fun h => ?_⟩
  by_contra hshort
  -- short of the target the collector has gone to the end of the scan
  have hend : scanEnd pages pageSize maxPages ≤ stopPage pages target pageSize maxPages := by
    rcases Nat.eq_zero_or_pos maxPages with rfl | hpos
    · exact le_rfl
    rcases firstPage_spec
      (fun p => target ≤ spendableTotal (pagesRead pages p) || (pages p).length < pageSize)
      maxPages with hP | hmax
    · rcases (Bool.or_eq_true _ _).mp hP with hmet | hpage
      · exact absurd (of_decide_eq_true hmet) hshort
      · apply not_lt.mp
        intro hlt
        have hfull := not_of_lt_firstPage (firstPage_pos _ hpos) hlt
        exact absurd hpage (by simpa using hfull)
    · exact (firstPage_le _ maxPages).trans_eq hmax.symm
  exact hshort (le_antisymm hle hend ▸ h)

/-! ## The collector -/

variable {o : SelectUtxosPagedOptions} (hserves : ∀ p, 1 ≤ p → o.batch p = .ok (pages p))
include hserves

/-- The loop from page `k + 1` on, when no earlier page was one to stop at. -/
theorem collectPages_from (target : ℤ) (n k : ℕ)
    (hbefore : ∀ p, 1 ≤ p → p ≤ k →
      spendableTotal (pagesRead pages p) < target ∧ o.pageSize ≤ (pages p).length) :
    ∃ stop, collectPages target o n (k + 1) (pagesRead pages k) (spendableTotal (pagesRead pages k)) =
      .ok
        { collected := pagesRead pages (stopPage pages target o.pageSize (k + n))
          pureAda := spendableTotal (pagesRead pages (stopPage pages target o.pageSize (k + n)))
          stop } := by
  have hnone : ∀ q, 1 ≤ q → q ≤ k →
      (decide (target ≤ spendableTotal (pagesRead pages q)) ||
        decide ((pages q).length < o.pageSize)) = false := by
    intro q h1 hq
    obtain ⟨hshort, hfull⟩ := hbefore q h1 hq
    simp [not_le.mpr hshort, not_lt.mpr hfull]
  induction n generalizing k with
  | zero =>
      have hstop : stopPage pages target o.pageSize (k + 0) = k :=
        firstPage_eq (by omega) (fun q h1 hq => hnone q h1 (by omega)) (Or.inr rfl)
      exact ⟨.cap, by rw [hstop]; rfl⟩
  | succ n ih =>
      have hada := addPureAda_of_wellFormed (hwf (k + 1)) (spendableTotal (pagesRead pages k))
      rw [← spendableTotal_append, ← pagesRead_succ] at hada
      simp only [collectPages, hserves (k + 1) (by omega), hada, bind, Except.bind,
        ← pagesRead_succ]
      -- the page at hand is one to stop at, or the next iteration takes over
      have hhere (hP : target ≤ spendableTotal (pagesRead pages (k + 1)) ∨
          (pages (k + 1)).length < o.pageSize) :
          stopPage pages target o.pageSize (k + (n + 1)) = k + 1 :=
        firstPage_eq (by omega) (fun q h1 hq => hnone q h1 (by omega))
          (Or.inl ⟨by omega, by simpa using hP⟩)
      split
      · next hmet => exact ⟨.targetMet, by rw [hhere (Or.inl hmet)]; rfl⟩
      · next hmet =>
          split
          · next hpage => exact ⟨.exhausted, by rw [hhere (Or.inr hpage)]; rfl⟩
          · next hpage =>
              have hk : ∀ p, 1 ≤ p → p ≤ k + 1 →
                  spendableTotal (pagesRead pages p) < target ∧ o.pageSize ≤ (pages p).length := by
                intro p h1 hp
                rcases Nat.lt_or_ge k p with hlt | hge
                · obtain rfl : p = k + 1 := by omega
                  exact ⟨not_le.mp hmet, not_lt.mp hpage⟩
                · exact hbefore p h1 hge
              obtain ⟨stop, hstop⟩ := ih (k + 1) hk fun q h1 hq => by
                obtain ⟨hshort, hfull⟩ := hk q h1 hq
                simp [not_le.mpr hshort, not_lt.mpr hfull]
              exact ⟨stop, by rw [hstop, show k + 1 + n = k + (n + 1) by omega]⟩

/-- **The collector** returns the pages up to `stopPage` and what they have to spend. -/
theorem collectPages_eq (target : ℤ) :
    ∃ stop, collectPages target o o.maxPages 1 [] 0 =
      .ok
        { collected := pagesRead pages (stopPage pages target o.pageSize o.maxPages)
          pureAda := spendableTotal (pagesRead pages (stopPage pages target o.pageSize o.maxPages))
          stop } := by
  have h := collectPages_from hwf hserves target o.maxPages 0 fun p h1 hp => by omega
  simpa only [Nat.zero_add, pagesRead_zero, spendableTotal_nil] using h

/-- A call whose pages are enough selects from the pages it reads. -/
theorem selectUtxosPaged_of_funded {target : ℤ} (h0 : 0 ≤ target)
    (hfunds : target ≤ spendableTotal (pagesRead pages (scanEnd pages o.pageSize o.maxPages))) :
    selectUtxosPaged target o =
      .ok (selectionOf
        (coverEntries (pagesRead pages (stopPage pages target o.pageSize o.maxPages)) target)) := by
  obtain ⟨stop, hcollect⟩ := collectPages_eq hwf hserves target
  have hmet := (le_spendableTotal_stopPage_iff hwf target o.pageSize o.maxPages).mpr hfunds
  simp only [selectUtxosPaged, hcollect, bind, Except.bind, if_neg (not_lt.mpr hmet)]
  exact selectUtxos_eq_ok (wellFormed_pagesRead hwf _) h0 hmet

/-- A call whose pages are not enough fails with `INVALID_AMOUNT`. -/
theorem selectUtxosPaged_of_short {target : ℤ}
    (hshort : spendableTotal (pagesRead pages (scanEnd pages o.pageSize o.maxPages)) < target) :
    ∃ message, selectUtxosPaged target o = .error (.validation .invalidAmount message) := by
  obtain ⟨stop, hcollect⟩ := collectPages_eq hwf hserves target
  have hless : spendableTotal (pagesRead pages (stopPage pages target o.pageSize o.maxPages)) <
      target :=
    not_le.mp fun hmet => not_le.mpr hshort
      ((le_spendableTotal_stopPage_iff hwf target o.pageSize o.maxPages).mp hmet)
  simp only [selectUtxosPaged, hcollect, bind, Except.bind, if_pos hless]
  exact ⟨_, rfl⟩

/-- A target below zero is refused whatever the pages hold. -/
theorem selectUtxosPaged_of_neg {target : ℤ} (hneg : target < 0) :
    ∃ message, selectUtxosPaged target o = .error (.validation .invalidAmount message) := by
  obtain ⟨stop, hcollect⟩ := collectPages_eq hwf hserves target
  have hsum := spendableTotal_nonneg
    (wellFormed_pagesRead hwf (stopPage pages target o.pageSize o.maxPages))
  simp only [selectUtxosPaged, hcollect, bind, Except.bind,
    if_neg (not_lt.mpr (hneg.le.trans hsum)), selectUtxos, if_pos hneg]
  exact ⟨_, rfl⟩

end wellFormed

/-! ## What a selection owes -/

/-- `s` spends pure-ADA UTXOs of `collected`, each no more often than it occurs there; its total
is theirs and reaches the target; and fewer pure-ADA UTXOs of `collected` never do. -/
structure IsMinimalSelection (collected : List BlockfrostUtxo) (target : ℤ) (s : SelectedUtxos) :
    Prop where
  spends : ∃ chosen : List BlockfrostUtxo, chosen.Subperm collected ∧
    (∀ u ∈ chosen, u.isAdaOnly = true) ∧ s.inputs = chosen.map BlockfrostUtxo.toInput ∧
    s.totalLovelaces = (chosen.map BlockfrostUtxo.lovelaces).sum
  reaches : target ≤ s.totalLovelaces
  minimal : ∀ other : List BlockfrostUtxo, other.Subperm collected →
    (∀ u ∈ other, u.isAdaOnly = true) → other.length < s.inputs.length →
    (other.map BlockfrostUtxo.lovelaces).sum < target

section entries

variable {utxos : List BlockfrostUtxo}

/-- An entry of the list holds its UTXO's data. -/
theorem entry_utxo_of_mem {e : Entry} (h : e ∈ adaEntries utxos) : e.utxo.entry = e := by
  obtain ⟨⟨u, -, rfl⟩, -⟩ := mem_adaEntries.mp h
  rfl

/-- Sums over entries are sums over their UTXOs. -/
theorem map_lovelaces_eq {es : List Entry} (h : ∀ e ∈ es, e ∈ adaEntries utxos) :
    es.map Entry.lovelaces = (es.map Entry.utxo).map BlockfrostUtxo.lovelaces := by
  rw [List.map_map]
  apply List.map_congr_left
  intro e he
  have hlov := congrArg Entry.lovelaces (entry_utxo_of_mem (h e he))
  exact hlov.symm

/-- The UTXOs behind the pure-ADA entries are UTXOs of the list. -/
theorem map_utxo_adaEntries_subperm (utxos : List BlockfrostUtxo) :
    ((adaEntries utxos).map Entry.utxo).Subperm utxos := by
  have hperm := (perm_adaEntries utxos).map Entry.utxo
  rw [List.map_map] at hperm
  have hid : (Entry.utxo ∘ BlockfrostUtxo.entry) = id := rfl
  rw [hid, List.map_id] at hperm
  exact hperm.subperm.trans List.filter_sublist.subperm

/-- Zero-valued UTXOs add nothing. -/
theorem sum_filter_pos {l : List BlockfrostUtxo} (h : ∀ u ∈ l, u.WellFormed) :
    ((l.filter fun u => 0 < u.lovelaces).map BlockfrostUtxo.lovelaces).sum =
      (l.map BlockfrostUtxo.lovelaces).sum := by
  induction l with
  | nil => rfl
  | cons u l ih =>
      have hl := ih fun v hv => h v (List.mem_cons_of_mem _ hv)
      rw [List.filter_cons, List.map_cons, List.sum_cons, ← hl]
      rcases (lovelaces_nonneg (h u List.mem_cons_self)).lt_or_eq with hpos | hzero
      · simp [hpos]
      · simp [← hzero]

/-- **The greedy cover of a funded list is a minimal selection.** -/
theorem isMinimalSelection_coverEntries (hwf : ∀ u ∈ utxos, u.WellFormed) {target : ℤ}
    (hfunds : target ≤ spendableTotal utxos) :
    IsMinimalSelection utxos target (selectionOf (coverEntries utxos target)) := by
  have hinitial : coverEntries utxos target <+: adaEntries utxos := cover_isPrefix _ _
  have hmem : ∀ e ∈ coverEntries utxos target, e ∈ adaEntries utxos := fun e he =>
    hinitial.subset he
  refine ⟨⟨(coverEntries utxos target).map Entry.utxo, ?_, ?_, ?_, ?_⟩, ?_, ?_⟩
  · exact (hinitial.map Entry.utxo).sublist.subperm.trans (map_utxo_adaEntries_subperm utxos)
  · intro u hu
    obtain ⟨e, he, rfl⟩ := List.mem_map.mp hu
    obtain ⟨⟨v, -, rfl⟩, -, hada⟩ := mem_adaEntries.mp (hmem e he)
    exact hada
  · simp [selectionOf]
  · rw [← map_lovelaces_eq hmem]
    rfl
  · exact le_sum_coverEntries hwf hfunds
  · intro other hsub hada hlen
    -- the part of `other` worth anything is a selection from the pure-ADA entries
    let worth := other.filter fun u => 0 < u.lovelaces
    have hworth : (worth.map BlockfrostUtxo.entry).Subperm (adaEntries utxos) := by
      have hfilter := hsub.filter fun u => decide (0 < u.lovelaces) && u.isAdaOnly
      have hsame : other.filter (fun u => decide (0 < u.lovelaces) && u.isAdaOnly) = worth :=
        List.filter_congr fun u hu => by simp [hada u hu]
      rw [hsame] at hfilter
      exact (hfilter.map fun u v huv => congrArg Entry.utxo huv).trans
        (perm_adaEntries utxos).symm.subperm
    have hshort : ((worth.map BlockfrostUtxo.entry).map Entry.lovelaces).sum < target := cover_minimal
      (pairwise_adaEntries utxos) (fun e he => (lovelaces_pos_of_mem_adaEntries he).le) hworth (by
        have hle : worth.length ≤ other.length := List.length_filter_le _ _
        have hinputs : (selectionOf (coverEntries utxos target)).inputs.length =
            (coverEntries utxos target).length := by simp [selectionOf]
        rw [List.length_map]
        exact lt_of_le_of_lt hle (hinputs ▸ hlen))
    rw [List.map_map] at hshort
    rw [← sum_filter_pos fun u hu => hwf u (hsub.subset hu)]
    exact hshort

end entries

/-- **Paged selection is sound, complete and minimal.** It succeeds iff the pages up to the end of
the scan hold the target in pure ADA, it never fails on a multi-asset UTXO, and what it returns is
a minimal selection from the pages it collected: those up to the first one that meets the
target. -/
theorem selectUtxosPaged_sound_complete_minimal {pages : ℕ → List BlockfrostUtxo}
    (hwf : ∀ p, ∀ u ∈ pages p, u.WellFormed) {seedPage : Option (List BlockfrostUtxo)}
    (hseed : seedPage = none ∨ seedPage = some (pages 1)) (pageSize maxPages : ℕ) {target : ℤ}
    (h0 : 0 ≤ target) :
    let outcome := selectUtxosPaged target
      { fetchPage := fun page _ => .ok (pages page), seedPage, maxPages, pageSize }
    ((∃ s, outcome = .ok s) ↔
        target ≤ spendableTotal (pagesRead pages (scanEnd pages pageSize maxPages))) ∧
      (∀ message, outcome ≠ .error (.validation .unsupportedOperation message)) ∧
      ∀ s, outcome = .ok s → ∃ k ≤ scanEnd pages pageSize maxPages,
        (∀ j, 1 ≤ j → j < k → spendableTotal (pagesRead pages j) < target) ∧
          IsMinimalSelection (pagesRead pages k) target s := by
  intro outcome
  let o : SelectUtxosPagedOptions :=
    { fetchPage := fun page _ => .ok (pages page), seedPage, maxPages, pageSize }
  have hserves : ∀ p, 1 ≤ p → o.batch p = .ok (pages p) := by
    intro p _
    rcases hseed with rfl | rfl
    · rfl
    · by_cases hp : p = 1 <;> simp [o, SelectUtxosPagedOptions.batch, hp]
  by_cases hfunds : target ≤ spendableTotal (pagesRead pages (scanEnd pages pageSize maxPages))
  · have hok := selectUtxosPaged_of_funded hwf hserves h0 hfunds
    change outcome = _ at hok
    refine ⟨iff_of_true ⟨_, hok⟩ hfunds, fun message h => ?_, fun s hs => ?_⟩
    · rw [hok] at h
      cases h
    · obtain rfl : _ = s := Except.ok.inj (hok.symm.trans hs)
      refine ⟨stopPage pages target pageSize maxPages, ?_, fun j h1 hj => ?_, ?_⟩
      · exact firstPage_le_firstPage (fun q hq => by simp_all) maxPages
      · have hbefore := not_of_lt_firstPage h1 hj
        simp only [Bool.or_eq_false_iff, decide_eq_false_iff_not] at hbefore
        exact not_le.mp hbefore.1
      · exact isMinimalSelection_coverEntries (wellFormed_pagesRead hwf _)
          ((le_spendableTotal_stopPage_iff hwf target pageSize maxPages).mpr hfunds)
  · obtain ⟨text, herror⟩ := selectUtxosPaged_of_short hwf hserves (not_le.mp hfunds)
    change outcome = _ at herror
    refine ⟨iff_of_false (fun ⟨s, hs⟩ => ?_) hfunds, fun message h => ?_, fun s hs => ?_⟩
    · rw [herror] at hs
      cases hs
    · rw [herror] at h
      cases h
    · rw [herror] at hs
      cases hs

/-- A UTXO holding lovelace only. -/
def adaUtxo (txHash quantity : String) : BlockfrostUtxo :=
  { txHash, outputIndex := 0, amount := [{ unit := "lovelace", quantity }] }

/-- A UTXO that also holds a native token. -/
def tokenUtxo (txHash quantity : String) : BlockfrostUtxo :=
  { txHash, outputIndex := 0,
    amount := [{ unit := "lovelace", quantity }, { unit := "token", quantity := "1" }] }

/-- Two pages of a wallet: 2 ADA and a token UTXO, then 3 ADA. -/
def mixedWallet : ℕ → List BlockfrostUtxo
  | 1 => [adaUtxo "a" "2000000", tokenUtxo "b" "9000000"]
  | 2 => [adaUtxo "c" "3000000"]
  | _ => []

/-- Four ADA are found in that wallet, although the second page must be read for them. -/
theorem selectUtxosPaged_mixedWallet :
    ∃ s, selectUtxosPaged 4000000
        { fetchPage := fun page _ => .ok (mixedWallet page), seedPage := some (mixedWallet 1),
          maxPages := 5, pageSize := 2 } = .ok s ∧
      ∃ k ≤ 2, IsMinimalSelection (pagesRead mixedWallet k) 4000000 s := by
  have hwf : ∀ p, ∀ u ∈ mixedWallet p, u.WellFormed := by
    intro p
    unfold mixedWallet
    split <;> decide
  have h0 : (0 : ℤ) ≤ 4000000 := by decide
  obtain ⟨hfunded, -, hsound⟩ :=
    selectUtxosPaged_sound_complete_minimal hwf (Or.inr rfl) 2 5 h0
  obtain ⟨s, hs⟩ := hfunded.mpr (by decide)
  obtain ⟨k, hk, -, hmin⟩ := hsound s hs
  exact ⟨s, hs, k, hk, hmin⟩

end GuardianStake.Cardano
