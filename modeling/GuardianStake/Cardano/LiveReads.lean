import GuardianStake.Cardano.PagedSelection
import GuardianStake.Found.Repeats

/-!
# Paged coin selection at an address that receives UTXOs meanwhile

The pages of one selection are requested one after the other from a list that may grow at its
front between two requests, and they are concatenated.

* `AddressHistory` — the list and what arrives before each request; its references stay distinct.
* `selectUtxosPaged_distinct_iff` — **when the inputs are distinct**: exactly if no UTXO read
  twice is needed twice.
* `needsNoRepeat_of_quiet` — which holds whenever nothing arrives between two requests.
* `selectUtxosPaged_busyAddress` — an arrival that makes the selection spend one UTXO twice.
-/

namespace GuardianStake.Cardano

open Sdk Found

/-! ## A growing address -/

/-- A list that has grown at its front `p` times. -/
def grown (initial : List BlockfrostUtxo) (arrivals : ℕ → List BlockfrostUtxo) :
    ℕ → List BlockfrostUtxo
  | 0 => initial
  | p + 1 => arrivals (p + 1) ++ grown initial arrivals p

/-- What an address holds, newest first, at the requests for its pages: before the request for
page `p` the UTXOs `arrivals p` are prepended. At every time the quantities are numerals and no
two UTXOs have the same reference. -/
structure AddressHistory where
  initial : List BlockfrostUtxo
  arrivals : ℕ → List BlockfrostUtxo
  wellFormed : ∀ p, ∀ u ∈ grown initial arrivals p, u.WellFormed
  distinct : ∀ p, ((grown initial arrivals p).map BlockfrostUtxo.toInput).Nodup

namespace AddressHistory

variable (h : AddressHistory)

/-- The UTXOs of the address when page `p` is requested. -/
def utxosAt (p : ℕ) : List BlockfrostUtxo := grown h.initial h.arrivals p

/-- The page served: items `(page - 1) * count` to `page * count` of the list as it is now.
Source: `rpc/blockfrost-rpc-client.ts`, `getUtxos`. -/
def page (count p : ℕ) : List BlockfrostUtxo := ((h.utxosAt p).drop ((p - 1) * count)).take count

/-- The options of a selection at the address, with page 1 fetched ahead or not.
Source: `services/sign-service.ts`, `selectInputs`. -/
def options (seeded : Bool) (pageSize maxPages : ℕ) : SelectUtxosPagedOptions where
  fetchPage := fun p count => .ok (h.page count p)
  seedPage := if seeded then some (h.page pageSize 1) else none
  maxPages := maxPages
  pageSize := pageSize

/-- What the selection reads, page after page. -/
def reads (target : ℤ) (pageSize maxPages : ℕ) : List BlockfrostUtxo :=
  pagesRead (h.page pageSize) (stopPage (h.page pageSize) target pageSize maxPages)

/-- The lovelaces behind a reference once page `p` has been requested. -/
def valueAt (p : ℕ) (input : TxInput) : ℤ :=
  match (h.utxosAt p).find? fun u => u.toInput = input with
  | some u => u.lovelaces
  | none => 0

/-- The inputs are pairwise distinct, and the total is the value of the set they form. -/
def SpendsDistinct (p : ℕ) (s : SelectedUtxos) : Prop :=
  s.inputs.Nodup ∧ s.totalLovelaces = ∑ input ∈ s.inputs.toFinset, h.valueAt p input

end AddressHistory

/-- No UTXO read twice is needed twice: the pure-ADA UTXOs larger than it, with the equally large
ones read before its second reading, reach the target. -/
def NeedsNoRepeat (target : ℤ) (reads : List BlockfrostUtxo) : Prop :=
  ∀ pre v post, reads = pre ++ v :: post → 0 < v.spendable →
    (∃ u ∈ pre, u.toInput = v.toInput) →
    target ≤ spendableTotal (reads.filter fun u => v.spendable < u.spendable) +
      spendableTotal (pre.filter fun u => u.spendable = v.spendable)

namespace AddressHistory

variable {h : AddressHistory}

/-- Nothing leaves the list. -/
theorem utxosAt_suffix {p q : ℕ} (hpq : p ≤ q) : h.utxosAt p <:+ h.utxosAt q := by
  obtain ⟨d, rfl⟩ := Nat.exists_eq_add_of_le hpq
  induction d with
  | zero => exact List.suffix_rfl
  | succ d ih => exact (ih (by omega)).trans (List.suffix_append (h.arrivals (p + d + 1)) _)

/-- A reference names one UTXO for all times. -/
theorem eq_of_toInput_eq {p q : ℕ} {u v : BlockfrostUtxo} (hu : u ∈ h.utxosAt p)
    (hv : v ∈ h.utxosAt q) (huv : u.toInput = v.toInput) : u = v :=
  List.inj_on_of_nodup_map (h.distinct (max p q))
    ((utxosAt_suffix (le_max_left p q)).subset hu) ((utxosAt_suffix (le_max_right p q)).subset hv)
    huv

theorem mem_utxosAt_of_mem_page {count p : ℕ} {u : BlockfrostUtxo} (hu : u ∈ h.page count p) :
    u ∈ h.utxosAt p :=
  List.mem_of_mem_drop (List.mem_of_mem_take hu)

theorem mem_utxosAt_of_mem_pagesRead {count k : ℕ} {u : BlockfrostUtxo}
    (hu : u ∈ pagesRead (h.page count) k) : u ∈ h.utxosAt k := by
  obtain ⟨p, -, hp, hu⟩ := mem_pagesRead.mp hu
  exact (utxosAt_suffix hp).subset (mem_utxosAt_of_mem_page hu)

theorem wellFormed_page (count p : ℕ) : ∀ u ∈ h.page count p, u.WellFormed := fun u hu =>
  h.wellFormed p u (mem_utxosAt_of_mem_page hu)

/-- The value of a UTXO's reference is the UTXO's. -/
theorem valueAt_toInput {p : ℕ} {u : BlockfrostUtxo} (hu : u ∈ h.utxosAt p) :
    h.valueAt p u.toInput = u.lovelaces := by
  unfold valueAt
  cases hfind : (h.utxosAt p).find? fun v => v.toInput = u.toInput with
  | none => exact absurd (List.find?_eq_none.mp hfind u hu) (by simp)
  | some v =>
      have hv : v.toInput = u.toInput := by simpa using List.find?_some hfind
      rw [eq_of_toInput_eq (List.mem_of_find?_eq_some hfind) hu hv]

/-- The options serve the pages of the history. -/
theorem batch_options (seeded : Bool) (pageSize maxPages p : ℕ) :
    (h.options seeded pageSize maxPages).batch p = .ok (h.page pageSize p) := by
  cases seeded
  · rfl
  · by_cases hp : p = 1 <;> simp [options, SelectUtxosPagedOptions.batch, hp]

/-! ## Which inputs repeat -/

/-- The pure-ADA UTXOs of a list, largest first. -/
def largestFirst (utxos : List BlockfrostUtxo) : List BlockfrostUtxo :=
  (adaEntries utxos).map Entry.utxo

theorem spendable_utxo_of_mem {utxos : List BlockfrostUtxo} {e : Entry}
    (he : e ∈ adaEntries utxos) :
    e.utxo.spendable = e.lovelaces := by
  obtain ⟨⟨u, -, rfl⟩, -, hada⟩ := mem_adaEntries.mp he
  exact if_pos hada

theorem pairwise_largestFirst (utxos : List BlockfrostUtxo) :
    (largestFirst utxos).Pairwise fun a b => b.spendable ≤ a.spendable := by
  rw [largestFirst, List.pairwise_map]
  refine (pairwise_adaEntries utxos).imp_of_mem fun ha hb hab => ?_
  rwa [spendable_utxo_of_mem ha, spendable_utxo_of_mem hb]

/-- An ADA-only UTXO of positive value is one with something to spend. -/
theorem pos_lovelaces_and_isAdaOnly (u : BlockfrostUtxo) :
    (decide (0 < u.lovelaces) && u.isAdaOnly) = decide (0 < u.spendable) := by
  unfold BlockfrostUtxo.spendable
  cases u.isAdaOnly <;> simp

theorem perm_largestFirst (utxos : List BlockfrostUtxo) :
    (largestFirst utxos).Perm (utxos.filter fun u => 0 < u.spendable) := by
  have hperm := (perm_adaEntries utxos).map Entry.utxo
  rw [List.map_map] at hperm
  have hid : (Entry.utxo ∘ BlockfrostUtxo.entry) = id := rfl
  rw [hid, List.map_id, List.filter_congr fun u _ => pos_lovelaces_and_isAdaOnly u] at hperm
  exact hperm

/-- The sort is stable: UTXOs of one value keep the order they were read in. -/
theorem filter_largestFirst (utxos : List BlockfrostUtxo) {c : ℤ} (hc : 0 < c) :
    (largestFirst utxos).filter (fun u => u.spendable = c) =
      utxos.filter fun u => u.spendable = c := by
  have hstable := filter_sort_of_ties compareEntries_total compareEntries_trans
    (p := fun e => e.isAdaOnly && decide (e.lovelaces = c))
    (fun a b ha hb => by
      rw [compareEntries_le_zero_iff]
      simp only [Bool.and_eq_true, decide_eq_true_eq] at ha hb
      exact Or.inr ⟨ha.1.trans hb.1.symm, (hb.2.trans ha.2.symm).le⟩)
    ((utxos.map BlockfrostUtxo.entry).filter fun e => 0 < e.lovelaces)
  have hleft : (largestFirst utxos).filter (fun u => u.spendable = c) =
      ((withLovelaces utxos).filter fun e =>
        e.isAdaOnly && decide (e.lovelaces = c)).map Entry.utxo := by
    rw [largestFirst, List.filter_map]
    congr 1
    rw [adaEntries, List.filter_filter]
    apply List.filter_congr
    intro e he
    obtain ⟨⟨u, -, rfl⟩, -⟩ := mem_withLovelaces.mp he
    cases hada : u.entry.isAdaOnly with
    | false => simp
    | true =>
        have hsp : u.spendable = u.lovelaces := if_pos hada
        rw [Bool.and_true, Bool.true_and]
        exact decide_eq_decide.mpr (Iff.of_eq (congrArg (· = c) hsp))
  rw [hleft, withLovelaces, hstable, List.filter_filter, List.filter_map, List.map_map]
  have hid : (Entry.utxo ∘ BlockfrostUtxo.entry) = id := rfl
  rw [hid, List.map_id]
  apply List.filter_congr
  intro u _
  cases hada : u.isAdaOnly with
  | false =>
      have hsp : u.spendable = 0 := by simp [BlockfrostUtxo.spendable, hada]
      simp [BlockfrostUtxo.entry, hada, hsp, hc.ne]
  | true =>
      have hsp : u.spendable = u.lovelaces := if_pos hada
      by_cases heq : u.lovelaces = c
      · simp [BlockfrostUtxo.entry, hada, hsp, heq, hc]
      · simp [BlockfrostUtxo.entry, hsp, heq]

/-- The inputs of a selection, as a cover of the UTXOs themselves. -/
theorem inputs_selectionOf (utxos : List BlockfrostUtxo) (target : ℤ) :
    (selectionOf (coverEntries utxos target)).inputs =
      (cover BlockfrostUtxo.spendable target 0 (largestFirst utxos)).map BlockfrostUtxo.toInput := by
  rw [largestFirst, cover_map, List.map_map]
  have hsame : ∀ (acc : ℤ) (es : List Entry), (∀ e ∈ es, e.utxo.spendable = e.lovelaces) →
      cover (fun e : Entry => e.utxo.spendable) target acc es =
        cover Entry.lovelaces target acc es := by
    intro acc es hes
    induction es generalizing acc with
    | nil => rfl
    | cons e es ih =>
        rw [cover, cover, hes e List.mem_cons_self,
          ih _ fun f hf => hes f (List.mem_cons_of_mem _ hf)]
  rw [hsame 0 _ fun e he => spendable_utxo_of_mem he]
  rfl

/-- The inputs of a selection from UTXOs that agree where their references do are distinct iff no
repetition is needed. -/
theorem inputs_nodup_iff {utxos : List BlockfrostUtxo}
    (hkey : ∀ u ∈ utxos, ∀ v ∈ utxos, u.toInput = v.toInput → u = v) (target : ℤ) :
    (selectionOf (coverEntries utxos target)).inputs.Nodup ↔ NeedsNoRepeat target utxos := by
  rw [inputs_selectionOf]
  exact nodup_keys_cover_iff (pairwise_largestFirst utxos) (perm_largestFirst utxos)
    (fun c hc => filter_largestFirst utxos hc) fun u hu v hv huv => by rw [hkey u hu v hv huv]

/-- Distinct inputs carry the total of the set they form. -/
theorem total_eq_of_nodup {utxos : List BlockfrostUtxo} {p : ℕ}
    (hmem : ∀ u ∈ utxos, u ∈ h.utxosAt p)
    (target : ℤ) (hnodup : (selectionOf (coverEntries utxos target)).inputs.Nodup) :
    h.SpendsDistinct p (selectionOf (coverEntries utxos target)) := by
  refine ⟨hnodup, ?_⟩
  rw [List.sum_toFinset _ hnodup]
  simp only [selectionOf, List.map_map]
  refine congrArg List.sum (List.map_congr_left fun e he => ?_)
  have hinitial : coverEntries utxos target <+: adaEntries utxos := cover_isPrefix _ _
  obtain ⟨⟨u, hu, rfl⟩, -⟩ := mem_adaEntries.mp (hinitial.subset he)
  exact (valueAt_toInput (hmem u hu)).symm

end AddressHistory

/-! ## When the inputs are distinct -/

/-- **When the inputs are distinct.** Whatever arrives between the requests, a selection that
succeeds spends pairwise distinct inputs, worth its total, iff no UTXO read twice is needed
twice. -/
theorem selectUtxosPaged_distinct_iff (h : AddressHistory) (seeded : Bool)
    (pageSize maxPages : ℕ) (target : ℤ) :
    (∀ s, selectUtxosPaged target (h.options seeded pageSize maxPages) = .ok s →
        h.SpendsDistinct maxPages s) ↔
      (target ≤ spendableTotal (h.reads target pageSize maxPages) →
        NeedsNoRepeat target (h.reads target pageSize maxPages)) := by
  have hwf : ∀ p, ∀ u ∈ h.page pageSize p, u.WellFormed := h.wellFormed_page pageSize
  have hserves : ∀ p, 1 ≤ p →
      (h.options seeded pageSize maxPages).batch p = .ok (h.page pageSize p) :=
    fun p _ => h.batch_options seeded pageSize maxPages p
  have hmem : ∀ u ∈ h.reads target pageSize maxPages,
      u ∈ h.utxosAt (stopPage (h.page pageSize) target pageSize maxPages) :=
    fun u hu => AddressHistory.mem_utxosAt_of_mem_pagesRead hu
  have hkey : ∀ u ∈ h.reads target pageSize maxPages, ∀ v ∈ h.reads target pageSize maxPages,
      u.toInput = v.toInput → u = v :=
    fun u hu v hv huv => AddressHistory.eq_of_toInput_eq (hmem u hu) (hmem v hv) huv
  have hnodup := AddressHistory.inputs_nodup_iff hkey target
  rcases lt_or_ge target 0 with hneg | h0
  · -- nothing is selected, and the condition holds of non-negative sums
    obtain ⟨message, herror⟩ := selectUtxosPaged_of_neg hwf hserves hneg
    apply iff_of_true (fun s hs => by rw [herror] at hs; cases hs)
    intro _ pre v post hreads _ _
    have hall := wellFormed_pagesRead hwf (stopPage (h.page pageSize) target pageSize maxPages)
    refine hneg.le.trans (add_nonneg ?_ ?_)
    · exact spendableTotal_nonneg fun u hu => hall u (List.mem_of_mem_filter hu)
    · refine spendableTotal_nonneg fun u hu => hall u ?_
      change u ∈ h.reads target pageSize maxPages
      rw [hreads]
      exact List.mem_append_left _ (List.mem_of_mem_filter hu)
  rcases lt_or_ge (spendableTotal (h.reads target pageSize maxPages)) target with hshort | hfunds
  · have hend := lt_of_not_ge fun hge => not_le.mpr hshort
      ((le_spendableTotal_stopPage_iff hwf target pageSize maxPages).mpr hge)
    obtain ⟨message, herror⟩ := selectUtxosPaged_of_short hwf hserves hend
    exact iff_of_true (fun s hs => by rw [herror] at hs; cases hs)
      fun hge => absurd hge (not_le.mpr hshort)
  · have hok := selectUtxosPaged_of_funded hwf hserves h0
      ((le_spendableTotal_stopPage_iff hwf target pageSize maxPages).mp hfunds)
    change selectUtxosPaged target _ =
      .ok (selectionOf (coverEntries (h.reads target pageSize maxPages) target)) at hok
    constructor
    · intro hall _
      exact hnodup.mp (hall _ hok).1
    · intro hspare s hs
      obtain rfl : _ = s := Except.ok.inj (hok.symm.trans hs)
      refine AddressHistory.total_eq_of_nodup (fun u hu => ?_) target (hnodup.mpr (hspare hfunds))
      exact (AddressHistory.utxosAt_suffix (firstPage_le _ _)).subset (hmem u hu)

/-! ## A quiet address -/

/-- Consecutive slices of one list are a piece of it. -/
theorem pagesRead_slices (l : List BlockfrostUtxo) (count k : ℕ) :
    pagesRead (fun p => (l.drop ((p - 1) * count)).take count) k = l.take (k * count) := by
  induction k with
  | zero => simp
  | succ k ih =>
      rw [pagesRead_succ, ih, Nat.add_sub_cancel, Nat.succ_mul, List.take_add]

/-- Where nothing arrives between two requests no UTXO is read twice, so none is needed twice. -/
theorem needsNoRepeat_of_quiet (h : AddressHistory) {pageSize maxPages : ℕ} (target : ℤ)
    (hquiet : ∀ p, 2 ≤ p → p ≤ maxPages → h.arrivals p = []) :
    NeedsNoRepeat target (h.reads target pageSize maxPages) := by
  have hsame : ∀ p, 1 ≤ p → p ≤ maxPages → h.utxosAt p = h.utxosAt 1 := by
    intro p h1
    induction p, h1 using Nat.le_induction with
    | base => exact fun _ => rfl
    | succ p h1 ih =>
        intro hp
        have hstep : h.utxosAt (p + 1) = h.arrivals (p + 1) ++ h.utxosAt p := rfl
        rw [hstep, hquiet (p + 1) (by omega) hp, List.nil_append, ih (by omega)]
  have hslices : h.reads target pageSize maxPages =
      (h.utxosAt 1).take (stopPage (h.page pageSize) target pageSize maxPages * pageSize) := by
    rw [← pagesRead_slices, AddressHistory.reads, pagesRead, pagesRead]
    apply List.flatMap_congr
    intro p hp
    obtain ⟨h1, hlt⟩ := List.mem_range'_1.mp hp
    have hmax := firstPage_le
      (fun p => target ≤ spendableTotal (pagesRead (h.page pageSize) p) ||
        (h.page pageSize p).length < pageSize) maxPages
    rw [AddressHistory.page, hsame p h1 (by unfold stopPage at hlt; omega)]
  have hnodup : ((h.reads target pageSize maxPages).map BlockfrostUtxo.toInput).Nodup := by
    rw [hslices]
    exact (h.distinct 1).sublist ((List.take_sublist _ _).map _)
  rintro pre v post hreads - ⟨u, hu, huv⟩
  rw [hreads, List.map_append, List.nodup_append] at hnodup
  exact absurd huv (hnodup.2.2 _ (List.mem_map_of_mem hu) _ (by simp))

/-! ## An arrival between two requests -/

/-- The output `index` of one transaction, holding a native token. -/
def tokenOutput (index : ℕ) : BlockfrostUtxo :=
  { txHash := "aa", outputIndex := index,
    amount := [{ unit := "lovelace", quantity := "1500000" }, { unit := "token", quantity := "1" }] }

/-- Output 0 of the same transaction: 2 ADA and nothing else. -/
def adaOutput : BlockfrostUtxo :=
  { txHash := "aa", outputIndex := 0, amount := [{ unit := "lovelace", quantity := "2000000" }] }

/-- An address with 99 token UTXOs and then the pure-ADA one; another token UTXO arrives before
the second page is requested. -/
def busyAddress : AddressHistory where
  initial := (List.range' 1 99).map tokenOutput ++ [adaOutput]
  arrivals := fun p => if p = 2 then [tokenOutput 100] else []
  wellFormed := by
    have hall : ∀ p, grown ((List.range' 1 99).map tokenOutput ++ [adaOutput])
        (fun p => if p = 2 then [tokenOutput 100] else []) p ⊆
          tokenOutput 100 :: ((List.range' 1 99).map tokenOutput ++ [adaOutput]) := by
      intro p
      induction p with
      | zero => exact List.subset_cons_self _ _
      | succ p ih =>
          by_cases hp : p + 1 = 2
          · simpa [grown, hp] using ih
          · simpa [grown, hp] using ih
    intro p u hu
    have hu := hall p hu
    simp only [List.mem_cons, List.mem_append, List.mem_map, List.not_mem_nil, or_false] at hu
    rcases hu with rfl | ⟨i, -, rfl⟩ | rfl
    · decide
    · exact (by decide : (tokenOutput 0).WellFormed)
    · decide
  distinct := by
    have hinputs : ∀ p, (grown ((List.range' 1 99).map tokenOutput ++ [adaOutput])
        (fun p => if p = 2 then [tokenOutput 100] else []) p).map BlockfrostUtxo.toInput =
          (if 2 ≤ p then [100] else []).map (TxInput.mk "aa") ++
            (List.range' 1 99 ++ [0]).map (TxInput.mk "aa") := by
      intro p
      induction p with
      | zero => rfl
      | succ p ih =>
          rw [grown, List.map_append, ih]
          rcases lt_trichotomy (p + 1) 2 with hlt | heq | hgt
          · rw [if_neg (by omega), if_neg (by omega), if_neg (by omega)]
            rfl
          · rw [if_pos heq, if_neg (by omega), if_pos (by omega)]
            rfl
          · rw [if_neg (by omega), if_pos (by omega), if_pos (by omega)]
            rfl
    intro p
    rw [hinputs, ← List.map_append]
    apply List.Nodup.map (fun i j hij => (TxInput.mk.inj hij).2)
    split <;> decide +kernel

/-- **The same input twice.** The arrival shifts the pure-ADA UTXO onto the second page as well,
and to raise 3 ADA the selection spends its 2 ADA twice. -/
theorem selectUtxosPaged_busyAddress :
    ∃ s, selectUtxosPaged 3000000
        (busyAddress.options true defaultUtxoPageSize defaultMaxUtxoPages) = .ok s ∧
      s.inputs = [⟨"aa", 0⟩, ⟨"aa", 0⟩] ∧ s.totalLovelaces = 4000000 ∧
      ¬busyAddress.SpendsDistinct defaultMaxUtxoPages s := by
  have hrun : selectUtxosPaged 3000000
      (busyAddress.options true defaultUtxoPageSize defaultMaxUtxoPages) =
        .ok { inputs := [⟨"aa", 0⟩, ⟨"aa", 0⟩], totalLovelaces := 4000000 } := by
    decide +kernel
  refine ⟨_, hrun, rfl, rfl, fun hdistinct => ?_⟩
  exact absurd hdistinct.1 (by decide)

end GuardianStake.Cardano
