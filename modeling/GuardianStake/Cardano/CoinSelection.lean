import GuardianStake.Cardano.Validations
import GuardianStake.Found.Greedy

/-!
# Coin selection

`tx/coin-selection.ts`: largest-first selection among the pure-ADA UTXOs of a list, and the lazy
collection of pages in front of it.

* `selectUtxos_eq_ok` — on UTXOs with well-formed quantities whose pure-ADA part reaches the
  requirement, the selection is the greedy cover of the sorted pure-ADA entries; the throw on a
  multi-asset UTXO is not reached.
-/

namespace GuardianStake.Cardano

open Sdk Found

/-! ## The code -/

/-- Source: `tx/coin-selection.ts`, `DEFAULT_COINS_PER_UTXO_SIZE`. -/
def defaultCoinsPerUtxoSize : String := "4310"

/-- Source: `tx/coin-selection.ts`, `DEFAULT_UTXO_PAGE_SIZE`. -/
def defaultUtxoPageSize : ℕ := 100

/-- Source: `tx/coin-selection.ts`, `DEFAULT_MAX_UTXO_PAGES`. -/
def defaultMaxUtxoPages : ℕ := 5

/-- Source: `tx/coin-selection.ts`, `SelectedUtxos`. -/
structure SelectedUtxos where
  inputs : List TxInput
  totalLovelaces : ℤ
  deriving DecidableEq, Repr

/-- The local `isAdaOnly` of both functions: a single asset, and that one lovelace. -/
def BlockfrostUtxo.isAdaOnly (utxo : BlockfrostUtxo) : Bool :=
  match utxo.amount with
  | [a] => a.unit = "lovelace"
  | _ => false

/-- The input that spends a UTXO. -/
def BlockfrostUtxo.toInput (utxo : BlockfrostUtxo) : TxInput :=
  { txHashHex := utxo.txHash, index := utxo.outputIndex }

/-- Source: `tx/coin-selection.ts`, `pureAdaLovelace`. -/
def pureAdaLovelace (utxo : BlockfrostUtxo) : Result ℤ :=
  match utxo.amount with
  | [a] => if a.unit = "lovelace" then parseLovelaceString a.quantity "utxo quantity" else .ok 0
  | _ => .ok 0

/-- An element of the local `withLovelaces`. -/
structure Entry where
  utxo : BlockfrostUtxo
  lovelaces : ℤ
  isAdaOnly : Bool
  deriving DecidableEq, Repr

/-- The mapping that makes `withLovelaces`: the quantity of the first lovelace asset, if any. -/
def toEntry (utxo : BlockfrostUtxo) : Result Entry := do
  let lovelaces ←
    match utxo.amount.find? fun a => a.unit = "lovelace" with
    | some lovelaceEntry => parseLovelaceString lovelaceEntry.quantity "utxo quantity"
    | none => .ok 0
  return { utxo, lovelaces, isAdaOnly := utxo.isAdaOnly }

/-- The comparator of the sort: pure-ADA entries first, then by falling lovelaces. -/
def compareEntries (a b : Entry) : ℤ :=
  if a.isAdaOnly ≠ b.isAdaOnly then
    if a.isAdaOnly then -1 else 1
  else if a.lovelaces < b.lovelaces then 1
  else if b.lovelaces < a.lovelaces then -1
  else 0

/-- The selection loop, with its `selected` and `total`. -/
def takeEntries (requiredLovelaces : ℤ) :
    List Entry → (selected : List Entry) → (total : ℤ) → Result (List Entry × ℤ)
  | [], selected, total => .ok (selected, total)
  | entry :: rest, selected, total =>
      if requiredLovelaces ≤ total then .ok (selected, total)
      else if !entry.isAdaOnly then
        .error (.validation .unsupportedOperation
          ("Native token UTXOs are not yet supported. "
            ++ "Move your tokens to a separate address before staking."))
      else takeEntries requiredLovelaces rest (selected ++ [entry]) (total + entry.lovelaces)

/-- Source: `tx/coin-selection.ts`, `selectUtxos`. -/
def selectUtxos (utxos : List BlockfrostUtxo) (requiredLovelaces : ℤ) : Result SelectedUtxos := do
  if requiredLovelaces < 0 then
    throw (.validation .invalidAmount
      s!"requiredLovelaces must be non-negative, got {requiredLovelaces}.")
  let entries ← utxos.mapM toEntry
  let withLovelaces := sort compareEntries (entries.filter fun e => 0 < e.lovelaces)
  let (selected, total) ← takeEntries requiredLovelaces withLovelaces [] 0
  if total < requiredLovelaces then
    throw (.validation .invalidAmount
      (s!"Insufficient funds: need at least {requiredLovelaces.tdiv 1000000} ADA but wallet UTXOs "
        ++ s!"only cover {total.tdiv 1000000} ADA."))
  return { inputs := selected.map fun e => e.utxo.toInput, totalLovelaces := total }

/-- Source: `tx/coin-selection.ts`, `SelectUtxosPagedOptions`. -/
structure SelectUtxosPagedOptions where
  fetchPage : (page count : ℕ) → Result (List BlockfrostUtxo)
  seedPage : Option (List BlockfrostUtxo)
  maxPages : ℕ := defaultMaxUtxoPages
  pageSize : ℕ := defaultUtxoPageSize

/-- Why the collector stopped. -/
inductive Stop
  | targetMet
  | exhausted
  | cap
  deriving DecidableEq, Repr

/-- The collector's variables when its loop has ended. -/
structure Collection where
  collected : List BlockfrostUtxo
  pureAda : ℤ
  stop : Stop
  deriving DecidableEq, Repr

/-- `page === 1 && seedPage ? seedPage : await fetchPage(page, pageSize)`. -/
def SelectUtxosPagedOptions.batch (o : SelectUtxosPagedOptions) (page : ℕ) :
    Result (List BlockfrostUtxo) :=
  match o.seedPage with
  | some seedPage => if page = 1 then .ok seedPage else o.fetchPage page o.pageSize
  | none => o.fetchPage page o.pageSize

/-- `for (const utxo of batch) pureAda += pureAdaLovelace(utxo)`. -/
def addPureAda (pureAda : ℤ) : List BlockfrostUtxo → Result ℤ
  | [] => .ok pureAda
  | utxo :: rest => do
      let lovelace ← pureAdaLovelace utxo
      addPureAda (pureAda + lovelace) rest

/-- The collector's loop from `page` on, with so many pages left under `maxPages`. -/
def collectPages (targetLovelace : ℤ) (o : SelectUtxosPagedOptions) :
    (remaining page : ℕ) → List BlockfrostUtxo → ℤ → Result Collection
  | 0, _, collected, pureAda => .ok { collected, pureAda, stop := .cap }
  | remaining + 1, page, collected, pureAda => do
      let batch ← o.batch page
      let pureAda ← addPureAda pureAda batch
      if targetLovelace ≤ pureAda then
        return { collected := collected ++ batch, pureAda, stop := .targetMet }
      else if batch.length < o.pageSize then
        return { collected := collected ++ batch, pureAda, stop := .exhausted }
      else collectPages targetLovelace o remaining (page + 1) (collected ++ batch) pureAda

/-- Source: `tx/coin-selection.ts`, `selectUtxosPaged`. -/
def selectUtxosPaged (targetLovelace : ℤ) (o : SelectUtxosPagedOptions) :
    Result SelectedUtxos := do
  let c ← collectPages targetLovelace o o.maxPages 1 [] 0
  if c.pureAda < targetLovelace then
    throw (.validation .invalidAmount
      (if c.stop = .cap then
        s!"Scanned the first {c.collected.length} UTXOs but found only {c.pureAda} lovelace in "
          ++ s!"spendable ADA-only UTXOs (need {targetLovelace}). Consolidate your wallet's many "
          ++ "small UTXOs and try again."
      else
        s!"Insufficient funds: need {targetLovelace} lovelace but spendable ADA-only UTXOs total "
          ++ s!"{c.pureAda}."))
  selectUtxos c.collected targetLovelace

/-! ## What a UTXO holds -/

/-- Every quantity of the UTXO is a numeral. -/
def BlockfrostUtxo.WellFormed (utxo : BlockfrostUtxo) : Prop :=
  ∀ a ∈ utxo.amount, isDigits a.quantity = true

instance (utxo : BlockfrostUtxo) : Decidable utxo.WellFormed :=
  inferInstanceAs (Decidable (∀ a ∈ utxo.amount, isDigits a.quantity = true))

/-- The lovelaces of a UTXO, zero if it has none. -/
def BlockfrostUtxo.lovelaces (utxo : BlockfrostUtxo) : ℤ :=
  match utxo.amount.find? fun a => a.unit = "lovelace" with
  | some a => (bigInt a.quantity).toOption.getD 0
  | none => 0

/-- The lovelaces of a UTXO if it is pure ADA, else zero. -/
def BlockfrostUtxo.spendable (utxo : BlockfrostUtxo) : ℤ :=
  if utxo.isAdaOnly then utxo.lovelaces else 0

/-- The entry of a well-formed UTXO. -/
def BlockfrostUtxo.entry (utxo : BlockfrostUtxo) : Entry :=
  { utxo, lovelaces := utxo.lovelaces, isAdaOnly := utxo.isAdaOnly }

/-- The spendable lovelaces of a list of UTXOs. -/
def spendableTotal (utxos : List BlockfrostUtxo) : ℤ := (utxos.map BlockfrostUtxo.spendable).sum

/-- No UTXOs have nothing to spend. -/
@[simp] theorem spendableTotal_nil : spendableTotal [] = 0 := rfl

/-- Two lists have the sum of theirs. -/
@[simp] theorem spendableTotal_append (l₁ l₂ : List BlockfrostUtxo) :
    spendableTotal (l₁ ++ l₂) = spendableTotal l₁ + spendableTotal l₂ := by
  simp [spendableTotal]

/-- On a numeral the parser returns what `BigInt` does. -/
theorem parseLovelaceString_of_isDigits {value : String} (h : isDigits value = true)
    (fieldName : String) :
    parseLovelaceString value fieldName = .ok ((bigInt value).toOption.getD 0) := by
  obtain ⟨n, hn⟩ := bigInt_of_isDigits h
  rw [parseLovelaceString, if_pos h, hn]
  rfl

variable {utxo : BlockfrostUtxo} {utxos : List BlockfrostUtxo}

/-- A well-formed UTXO is an entry. -/
theorem toEntry_of_wellFormed (h : utxo.WellFormed) : toEntry utxo = .ok utxo.entry := by
  simp only [toEntry, BlockfrostUtxo.entry, BlockfrostUtxo.lovelaces]
  cases hfind : utxo.amount.find? fun a => a.unit = "lovelace" with
  | none => rfl
  | some a =>
      simp only [parseLovelaceString_of_isDigits (h a (List.mem_of_find?_eq_some hfind))]
      rfl

/-- What is counted for a well-formed UTXO is what it has to spend. -/
theorem pureAdaLovelace_of_wellFormed (h : utxo.WellFormed) :
    pureAdaLovelace utxo = .ok utxo.spendable := by
  obtain ⟨txHash, outputIndex, amount⟩ := utxo
  simp only [pureAdaLovelace, BlockfrostUtxo.spendable, BlockfrostUtxo.isAdaOnly,
    BlockfrostUtxo.lovelaces]
  match amount, h with
  | [], _ => rfl
  | [a], h =>
      by_cases hu : a.unit = "lovelace"
      · simp [hu, parseLovelaceString_of_isDigits (h a List.mem_cons_self)]
      · simp [hu]
  | _ :: _ :: _, _ => rfl

/-- Numerals are not negative. -/
theorem lovelaces_nonneg (h : utxo.WellFormed) : 0 ≤ utxo.lovelaces := by
  simp only [BlockfrostUtxo.lovelaces]
  split
  · next a hfind =>
      obtain ⟨n, hn⟩ := bigInt_of_isDigits (h a (List.mem_of_find?_eq_some hfind))
      simp [hn, Except.toOption]
  · exact le_rfl

/-- Nor is what a UTXO has to spend. -/
theorem spendable_nonneg (h : utxo.WellFormed) : 0 ≤ utxo.spendable := by
  simp only [BlockfrostUtxo.spendable]
  split
  · exact lovelaces_nonneg h
  · exact le_rfl

/-- Nor is the total. -/
theorem spendableTotal_nonneg (h : ∀ u ∈ utxos, u.WellFormed) : 0 ≤ spendableTotal utxos :=
  sum_map_nonneg fun u hu => spendable_nonneg (h u hu)

/-- Well-formed UTXOs are all entries. -/
theorem mapM_toEntry (h : ∀ u ∈ utxos, u.WellFormed) :
    utxos.mapM toEntry = .ok (utxos.map BlockfrostUtxo.entry) := by
  induction utxos with
  | nil => rfl
  | cons u l ih =>
      rw [List.mapM_cons, toEntry_of_wellFormed (h u List.mem_cons_self),
        ih fun v hv => h v (List.mem_cons_of_mem _ hv)]
      rfl

/-- What the loop over a page adds. -/
theorem addPureAda_of_wellFormed (h : ∀ u ∈ utxos, u.WellFormed) (pureAda : ℤ) :
    addPureAda pureAda utxos = .ok (pureAda + spendableTotal utxos) := by
  induction utxos generalizing pureAda with
  | nil => simp [addPureAda]
  | cons u l ih =>
      simp only [addPureAda, pureAdaLovelace_of_wellFormed (h u List.mem_cons_self)]
      apply (ih (fun v hv => h v (List.mem_cons_of_mem _ hv)) _).trans
      simp [spendableTotal, add_assoc]

/-! ## The sorted entries -/

/-- Not placed after: pure ADA first, and within a kind no fewer lovelaces. -/
theorem compareEntries_le_zero_iff (a b : Entry) :
    compareEntries a b ≤ 0 ↔
      (a.isAdaOnly = true ∧ b.isAdaOnly = false) ∨
        (a.isAdaOnly = b.isAdaOnly ∧ b.lovelaces ≤ a.lovelaces) := by
  unfold compareEntries
  cases a.isAdaOnly <;> cases b.isAdaOnly <;> simp <;> split_ifs <;> simp_all

/-- The comparator places any two entries. -/
theorem compareEntries_total (a b : Entry) : compareEntries a b ≤ 0 ∨ compareEntries b a ≤ 0 := by
  rw [compareEntries_le_zero_iff, compareEntries_le_zero_iff]
  rcases le_total a.lovelaces b.lovelaces with hle | hle <;>
    cases a.isAdaOnly <;> cases b.isAdaOnly <;> simp [hle]

/-- It is transitive. -/
theorem compareEntries_trans (a b c : Entry) (hab : compareEntries a b ≤ 0)
    (hbc : compareEntries b c ≤ 0) : compareEntries a c ≤ 0 := by
  rw [compareEntries_le_zero_iff] at hab hbc ⊢
  rcases hab with ⟨ha, hb⟩ | ⟨hab, hle⟩ <;> rcases hbc with ⟨hb', hc⟩ | ⟨hbc, hle'⟩
  · simp_all
  · exact Or.inl ⟨ha, hbc ▸ hb⟩
  · exact Or.inl ⟨hab ▸ hb', hc⟩
  · exact Or.inr ⟨hab.trans hbc, hle'.trans hle⟩

/-- The local `withLovelaces` of a list of well-formed UTXOs. -/
def withLovelaces (utxos : List BlockfrostUtxo) : List Entry :=
  sort compareEntries ((utxos.map BlockfrostUtxo.entry).filter fun e => 0 < e.lovelaces)

/-- Its pure-ADA entries, largest first. -/
def adaEntries (utxos : List BlockfrostUtxo) : List Entry :=
  (withLovelaces utxos).filter Entry.isAdaOnly

/-- The entries are sorted. -/
theorem pairwise_withLovelaces (utxos : List BlockfrostUtxo) :
    (withLovelaces utxos).Pairwise fun a b => compareEntries a b ≤ 0 :=
  pairwise_sort compareEntries_total compareEntries_trans _

/-- Pure-ADA entries are exhausted before any other. -/
theorem withLovelaces_eq (utxos : List BlockfrostUtxo) :
    withLovelaces utxos =
      adaEntries utxos ++ (withLovelaces utxos).filter fun e => !e.isAdaOnly := by
  refine (filter_append_filter_not ((pairwise_withLovelaces utxos).imp ?_)).symm
  intro a b hab hb
  rcases (compareEntries_le_zero_iff a b).mp hab with ⟨ha, -⟩ | ⟨heq, -⟩
  · exact ha
  · exact heq.trans hb

/-- They are those of the UTXOs with any lovelaces. -/
theorem mem_withLovelaces {e : Entry} :
    e ∈ withLovelaces utxos ↔ (∃ u ∈ utxos, u.entry = e) ∧ 0 < e.lovelaces := by
  simp [withLovelaces]

/-- The pure-ADA ones among them. -/
theorem mem_adaEntries {e : Entry} :
    e ∈ adaEntries utxos ↔ (∃ u ∈ utxos, u.entry = e) ∧ 0 < e.lovelaces ∧ e.isAdaOnly = true := by
  simp [adaEntries, mem_withLovelaces, and_assoc]

/-- Each has lovelaces. -/
theorem lovelaces_pos_of_mem_adaEntries {e : Entry} (h : e ∈ adaEntries utxos) : 0 < e.lovelaces :=
  (mem_adaEntries.mp h).2.1

/-- Largest first. -/
theorem pairwise_adaEntries (utxos : List BlockfrostUtxo) :
    (adaEntries utxos).Pairwise fun a b => b.lovelaces ≤ a.lovelaces := by
  refine List.Pairwise.imp_of_mem ?_ ((pairwise_withLovelaces utxos).filter Entry.isAdaOnly)
  intro a b ha hb hab
  rcases (compareEntries_le_zero_iff a b).mp hab with ⟨-, hb'⟩ | ⟨-, hle⟩
  · exact absurd (mem_adaEntries.mp hb).2.2 (by simp [hb'])
  · exact hle

/-- The pure-ADA entries are those of the UTXOs with something to spend. -/
theorem perm_adaEntries (utxos : List BlockfrostUtxo) :
    (adaEntries utxos).Perm
      ((utxos.filter fun u => decide (0 < u.lovelaces) && u.isAdaOnly).map
        BlockfrostUtxo.entry) := by
  apply ((perm_sort compareEntries _).filter Entry.isAdaOnly).trans
  rw [List.filter_filter, List.filter_map]
  refine List.Perm.of_eq (congrArg _ (List.filter_congr fun u _ => ?_))
  exact Bool.and_comm u.isAdaOnly (decide (0 < u.lovelaces))

/-- The pure-ADA entries hold what the UTXOs have to spend. -/
theorem sum_adaEntries (h : ∀ u ∈ utxos, u.WellFormed) :
    ((adaEntries utxos).map Entry.lovelaces).sum = spendableTotal utxos := by
  rw [((perm_adaEntries utxos).map Entry.lovelaces).sum_eq, List.map_map]
  induction utxos with
  | nil => rfl
  | cons u l ih =>
      have hl := ih fun v hv => h v (List.mem_cons_of_mem _ hv)
      have hu := lovelaces_nonneg (h u List.mem_cons_self)
      rw [spendableTotal, List.map_cons, List.sum_cons, ← spendableTotal, ← hl, List.filter_cons,
        BlockfrostUtxo.spendable]
      rcases hu.lt_or_eq with hpos | hzero
      · cases u.isAdaOnly <;> simp [hpos, BlockfrostUtxo.entry]
      · simp [← hzero]

/-! ## The selection loop is a greedy cover -/

/-- Once the requirement is met no entry is taken. -/
theorem takeEntries_of_le {required total : ℤ} (h : required ≤ total) (l selected : List Entry) :
    takeEntries required l selected total = .ok (selected, total) := by
  cases l <;> simp [takeEntries, h]

/-- Over pure-ADA entries the loop covers the requirement greedily and goes on behind them. -/
theorem takeEntries_append {required : ℤ} {P : List Entry} (hP : ∀ e ∈ P, e.isAdaOnly = true)
    (N selected : List Entry) (total : ℤ) :
    takeEntries required (P ++ N) selected total =
      takeEntries required N (selected ++ cover Entry.lovelaces required total P)
        (total + ((cover Entry.lovelaces required total P).map Entry.lovelaces).sum) := by
  induction P generalizing selected total with
  | nil => simp [cover]
  | cons e P ih =>
      rcases le_or_gt required total with hle | hlt
      · simp [takeEntries_of_le hle, cover_of_le hle]
      · rw [List.cons_append, takeEntries, if_neg (not_le.mpr hlt), if_neg (by
          simp [hP e List.mem_cons_self]), ih fun f hf => hP f (List.mem_cons_of_mem _ hf),
          cover_cons_of_lt hlt]
        simp [add_assoc]

/-- The inputs and the total of a list of entries. -/
def selectionOf (entries : List Entry) : SelectedUtxos :=
  { inputs := entries.map fun e => e.utxo.toInput
    totalLovelaces := (entries.map Entry.lovelaces).sum }

/-- The entries a selection spends. -/
def coverEntries (utxos : List BlockfrostUtxo) (requiredLovelaces : ℤ) : List Entry :=
  cover Entry.lovelaces requiredLovelaces 0 (adaEntries utxos)

/-- A funded selection covers the requirement. -/
theorem le_sum_coverEntries (h : ∀ u ∈ utxos, u.WellFormed) {required : ℤ}
    (hfunds : required ≤ spendableTotal utxos) :
    required ≤ ((coverEntries utxos required).map Entry.lovelaces).sum := by
  have hiff : required ≤ 0 + ((coverEntries utxos required).map Entry.lovelaces).sum ↔
      required ≤ 0 + ((adaEntries utxos).map Entry.lovelaces).sum :=
    cover_reaches_iff 0 (adaEntries utxos) fun e he => (lovelaces_pos_of_mem_adaEntries he).le
  rw [zero_add, zero_add, sum_adaEntries h] at hiff
  exact hiff.mpr hfunds

/-- **Selection from a funded list**: the greedy cover of the pure-ADA entries. -/
theorem selectUtxos_eq_ok (h : ∀ u ∈ utxos, u.WellFormed) {required : ℤ} (h0 : 0 ≤ required)
    (hfunds : required ≤ spendableTotal utxos) :
    selectUtxos utxos required = .ok (selectionOf (coverEntries utxos required)) := by
  have hreach := le_sum_coverEntries h hfunds
  have htake : takeEntries required (withLovelaces utxos) [] 0 =
      .ok (coverEntries utxos required,
        ((coverEntries utxos required).map Entry.lovelaces).sum) := by
    rw [withLovelaces_eq, takeEntries_append fun e he => (mem_adaEntries.mp he).2.2,
      List.nil_append, zero_add]
    exact takeEntries_of_le hreach _ _
  simp only [selectUtxos, if_neg (not_lt.mpr h0), mapM_toEntry h]
  show (takeEntries required (withLovelaces utxos) [] 0 >>= _) = _
  rw [htake]
  simp only [bind, Except.bind, if_neg (not_lt.mpr hreach)]
  rfl

end GuardianStake.Cardano
