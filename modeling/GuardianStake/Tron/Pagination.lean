import GuardianStake.Found.Pages
import GuardianStake.Sdk.DoubleArithmetic
import GuardianStake.Tron.MapWithConcurrency
import GuardianStake.Tron.StakingCaches
import GuardianStake.Tron.StakingService

/-!
# The pages of the validator list

`validatePageParams` of the SDK and `getValidators` of `services/staking-service.ts`. The start of a
page, its slice, the number of pages and the flag for the next one are four formulas in doubles over
a page size that comes from the caller or is the length of the list.

* `validatePageParams_eq_ok` — what an accepted page number and page size are.
* `getValidators_eq_ok` — a page, its pagination included, by the exact formulas.
* `getValidators_partitions_iff` — **when the pages partition the list**: unless an empty list is
  asked for without a page size.
* `getValidators_noPageSize` — the number of pages is then `NaN`.
-/

namespace GuardianStake.Tron

open Sdk Found

/-! ## The code -/

/-- Source: `entity/staking-types.ts`, `GetValidatorsParams`. -/
structure GetValidatorsParams where
  page : Option Double := none
  pageSize : Option Double := none
  deriving DecidableEq

/-- Source: `entity/staking-types.ts`, `ValidatorsPagination`, of a chain that knows its total. -/
structure ValidatorsPagination where
  page : Double
  pageSize : Double
  total : Double
  totalPages : Double
  hasNextPage : Bool
  deriving DecidableEq

/-- Source: `entity/staking-types.ts`, `ValidatorsPage`. -/
structure ValidatorsPage where
  data : List Validator
  pagination : ValidatorsPagination
  deriving DecidableEq

/-- `!Number.isInteger(value) || value < 1`. -/
def isNotPositiveInteger (value : Double) : Bool := !value.isInteger || value.lt 1

/-- Source: `entity/staking-validation.ts`, `validatePageParams`. -/
def validatePageParams (params : GetValidatorsParams) : Result Unit := do
  if params.page.any isNotPositiveInteger then
    throw (.validation .invalidPage "page must be an integer of 1 or greater")
  if params.pageSize.any isNotPositiveInteger then
    throw (.validation .invalidPageSize "pageSize must be an integer of 1 or greater")

/-- Source: `services/staking-service.ts`, `enrichApr`, apart from the rate. -/
def enrichApr (raw : RawWitness) : Validator :=
  { buildValidator raw.address raw.name "" raw.address with
    status := if raw.isSr then .active else .inactive }

/-- Source: `services/staking-service.ts`, `BROKERAGE_CONCURRENCY`. -/
def brokerageConcurrency : Limit := 8

/-- Source: `services/staking-service.ts`, `getValidators`. The data are what `mapWithConcurrency`
resolves with, see `enrichPage_run`. -/
def getValidators (load : Result LoadResult) (params : GetValidatorsParams) :
    Result ValidatorsPage := do
  validatePageParams params
  let { raw, .. } ← load
  let page := params.page.getD 1
  let pageSize := params.pageSize.getD (raw.length : Double)
  let start := (page - 1) * pageSize
  let rawPage := slice raw start (start + pageSize)
  let data := rawPage.map enrichApr
  return {
    data
    pagination := {
      page
      pageSize
      total := raw.length
      totalPages := Double.max 1 (Double.ceil ((raw.length : Double) / pageSize))
      hasNextPage := (start + pageSize).lt raw.length } }

/-- The largest length of an array. -/
def maxArrayLength : ℕ := 2 ^ 32 - 1

/-- **The data of a page**: in whatever order the calls of `enrichApr` complete, the promise of
`mapWithConcurrency` resolves with one result for each witness, in the order of the page. -/
theorem enrichPage_run {ε : Type} {rawPage : List RawWitness}
    {l : List (PoolEvent Validator ε × Pool RawWitness Validator ε)}
    {s : Pool RawWitness Validator ε}
    (hrun : Run (PoolStep rawPage) (mapWithConcurrency rawPage brokerageConcurrency) l)
    (hs : lastState (mapWithConcurrency rawPage brokerageConcurrency) l = s)
    (hcalls : ∀ i raw outcome, rawPage[i]? = some raw → (i, outcome) ∈ s.outcomes →
      outcome = .ok (enrichApr raw)) (hres : Resolved s) :
    s.results = (rawPage.map enrichApr).map some := by
  rw [results_of_resolved hrun hs hcalls hres, List.map_map]
  rfl

/-! ## What is accepted -/

/-- What passes the check is a positive integer. -/
theorem isNotPositiveInteger_eq_false {x : Double} :
    isNotPositiveInteger x = false ↔ ∃ n : ℕ, x = ((n + 1 : ℕ) : Double) := by
  constructor
  · intro h
    obtain ⟨hint, hpos⟩ := Bool.or_eq_false_iff.mp h
    cases x with
    | nan => cases hint
    | infinity negative => cases hint
    | finite q =>
        have hden : q.den = 1 := by simpa [Double.isInteger] using hint
        have hq : (q.num : ℚ) = q := Rat.den_eq_one_iff q |>.mp hden
        have hone : (1 : ℚ) ≤ q := by
          have hlt : ¬q < (1 : ℕ) := of_decide_eq_false hpos
          exact_mod_cast not_lt.mp hlt
        have hnum : 1 ≤ q.num := by
          rw [← hq] at hone
          exact_mod_cast hone
        refine ⟨(q.num - 1).toNat, ?_⟩
        show Double.finite q = .finite ((q.num - 1).toNat + 1 : ℕ)
        congr 1
        rw [← hq]
        have hcast : (((q.num - 1).toNat + 1 : ℕ) : ℤ) = q.num := by omega
        exact_mod_cast hcast.symm
  · rintro ⟨n, rfl⟩
    refine Bool.or_eq_false_iff.mpr ⟨?_, ?_⟩
    · show (!decide (((n + 1 : ℕ) : ℚ).den = 1)) = false
      simp
    · show decide (((n + 1 : ℕ) : ℚ) < (1 : ℕ)) = false
      rw [decide_eq_false_iff_not, Nat.cast_lt]
      omega

/-- An option passes iff it is absent or holds a positive integer. -/
theorem any_isNotPositiveInteger {o : Option Double} :
    o.any isNotPositiveInteger = false ↔ o = none ∨ ∃ n : ℕ, o = some ((n + 1 : ℕ) : Double) := by
  cases o with
  | none => simp
  | some x => simp [isNotPositiveInteger_eq_false]

/-- **What an accepted page number and page size are**: absent or a positive integer each. -/
theorem validatePageParams_eq_ok {params : GetValidatorsParams} :
    validatePageParams params = .ok () ↔
      params.page.any isNotPositiveInteger = false ∧
        params.pageSize.any isNotPositiveInteger = false := by
  unfold validatePageParams
  rw [guard_eq_ok, Bool.not_eq_true]
  cases params.pageSize.any isNotPositiveInteger <;>
    simp [pure, Except.pure, throw, throwThe, MonadExceptOf.throw]

/-! ## What a page is -/

section page

variable {raw : List RawWitness} {p size : ℕ}

/-- The start of a page, before and after the end of the list. -/
theorem start_cases (hraw : raw.length ≤ maxArrayLength) (hsize : 0 < size) (p : ℕ) :
    (p * size < raw.length ∧
      (((p + 1 : ℕ) : Double) - 1) * (size : Double) = ((p * size : ℕ) : Double)) ∨
    (raw.length ≤ p * size ∧
      ((((p + 1 : ℕ) : Double) - 1) * (size : Double)).AtLeast raw.length) := by
  rw [maxArrayLength] at hraw
  have hpred : ((p + 1 : ℕ) : Double) - 1 = Double.ofRat p := by
    show Double.ofRat (((p + 1 : ℕ) : ℚ) + -((1 : ℕ) : ℚ)) = Double.ofRat p
    congr 1
    push_cast
    ring
  have hmul : (p : Double) * (size : Double) = Double.ofRat ((p * size : ℕ) : ℚ) := by
    show Double.ofRat ((p : ℚ) * size) = _
    rw [Nat.cast_mul]
  have hle : p ≤ p * size := Nat.le_mul_of_pos_right p hsize
  rw [hpred]
  rcases lt_or_ge (p * size) raw.length with hlt | hge
  · left
    rw [Double.ofRat_natCast (n := p) (by omega)]
    refine ⟨hlt, hmul.trans ?_⟩
    exact Double.ofRat_natCast (by omega)
  · right
    refine ⟨hge, ?_⟩
    rcases lt_or_ge p (2 ^ 53) with hp | hp
    · rw [Double.ofRat_natCast hp]
      show ((p : Double) * (size : Double)).AtLeast raw.length
      rw [hmul]
      exact Double.ofRat_atLeast (by omega) (by exact_mod_cast hge)
    · -- the page number itself is past the end
      have hpast : raw.length ≤ p := by omega
      exact (Double.ofRat_atLeast (by omega) (by exact_mod_cast hpast)).mul (by omega)
        (by exact_mod_cast hsize)

/-- The slice of a page is the page. -/
theorem slice_eq_page (hraw : raw.length ≤ maxArrayLength) (hsize : 0 < size) (p : ℕ) :
    slice raw ((((p + 1 : ℕ) : Double) - 1) * (size : Double))
      ((((p + 1 : ℕ) : Double) - 1) * (size : Double) + (size : Double)) = page raw size p := by
  rw [slice]
  rcases start_cases hraw hsize p with ⟨hlt, hstart⟩ | ⟨hge, hstart⟩
  · rw [maxArrayLength] at hraw
    have hstop : ((p * size : ℕ) : Double) + (size : Double) =
        Double.ofRat ((p * size + size : ℕ) : ℚ) := by
      show Double.ofRat (((p * size : ℕ) : ℚ) + size) = _
      rw [Nat.cast_add]
    have hindex : ((p * size : ℕ) : Double).toIndex raw.length = p * size := by
      rw [← Double.ofRat_natCast (n := p * size) (by omega), Double.toIndex_ofRat (by omega),
        min_eq_left hlt.le]
    rw [hstart, hstop, Double.toIndex_ofRat (by omega), hindex, ← List.take_take, List.take_length,
      page, List.drop_take, Nat.add_sub_cancel_left]
  · rw [hstart.toIndex, page_of_le hge]
    exact List.drop_of_length_le (List.length_take_le' _ _)

/-- The flag for the next page tells whether entries are left. -/
theorem stop_lt_length (hraw : raw.length ≤ maxArrayLength) (hsize : 0 < size) (p : ℕ) :
    ((((p + 1 : ℕ) : Double) - 1) * (size : Double) + (size : Double)).lt (raw.length : Double) =
      decide ((p + 1) * size < raw.length) := by
  rcases start_cases hraw hsize p with ⟨-, hstart⟩ | ⟨hge, hstart⟩
  · rw [maxArrayLength] at hraw
    have hstop : ((p * size : ℕ) : Double) + (size : Double) =
        Double.ofRat (((p + 1) * size : ℕ) : ℚ) := by
      show Double.ofRat (((p * size : ℕ) : ℚ) + size) = _
      rw [Nat.succ_mul, Nat.cast_add]
    rw [hstart, hstop, Double.ofRat_lt_natCast (by omega)]
  · rw [maxArrayLength] at hraw
    have hle : ¬(p + 1) * size < raw.length := by
      rw [Nat.succ_mul]
      omega
    rw [decide_eq_false hle]
    exact (hstart.add (by omega) (Nat.cast_nonneg size)).lt_natCast

/-- **A page, its pagination included**, by the exact formulas. -/
theorem getValidators_eq_ok {loaded : LoadResult} (hraw : loaded.raw.length ≤ maxArrayLength)
    (hsize : 0 < size) {params : GetValidatorsParams} (hok : validatePageParams params = .ok ())
    (hpage : params.page.getD 1 = ((p + 1 : ℕ) : Double))
    (hpageSize : params.pageSize.getD (loaded.raw.length : Double) = (size : Double)) :
    getValidators (.ok loaded) params = .ok
      { data := (page loaded.raw size p).map enrichApr
        pagination :=
          { page := ((p + 1 : ℕ) : Double)
            pageSize := (size : Double)
            total := (loaded.raw.length : Double)
            totalPages := (pageCount loaded.raw.length size : Double)
            hasNextPage := decide ((p + 1) * size < loaded.raw.length) } } := by
  have hcount : loaded.raw.length < 2 ^ 53 := by
    rw [maxArrayLength] at hraw
    omega
  unfold getValidators
  refine bind_eq_ok.mpr ⟨(), hok, bind_eq_ok.mpr ⟨loaded, rfl, ?_⟩⟩
  simp only [hpage, hpageSize]
  rw [slice_eq_page hraw hsize, stop_lt_length hraw hsize, max_one_ceil_div hcount hsize]
  rfl

end page

/-! ## What the pages make up -/

/-- The pages of a page size, as many as there are said to be, partition the witness list. -/
structure Partitions (loaded : LoadResult) (pageSize : Option Double) (totalPages : ℕ) :
    Prop where
  /-- There are as many pages as the list takes, one at least. -/
  count : ∀ size, pageSize.getD (loaded.raw.length : Double) = .finite size →
    (totalPages : ℤ) = max 1 ⌈(loaded.raw.length / size : ℚ)⌉
  /-- Every page number is answered with the same page size and number of pages, the next page is
  announced up to the last one, and there is nothing after that. -/
  page : ∀ page, validatePageParams { page, pageSize } = .ok () →
    ∃ result, getValidators (.ok loaded) { page, pageSize } = .ok result ∧
      result.pagination.page = page.getD 1 ∧
      result.pagination.pageSize = pageSize.getD (loaded.raw.length : Double) ∧
      result.pagination.total = (loaded.raw.length : Double) ∧
      result.pagination.totalPages = (totalPages : Double) ∧
      result.pagination.hasNextPage = (page.getD 1).lt (totalPages : Double) ∧
      ((totalPages : Double).lt (page.getD 1) = true → result.data = [])
  /-- The pages one after another are the list. -/
  data : ∃ pages, (List.range totalPages).mapM (fun i =>
      getValidators (.ok loaded) { page := some ((i + 1 : ℕ) : Double), pageSize }) = .ok pages ∧
    pages.flatMap ValidatorsPage.data = loaded.raw.map enrichApr

section partition

variable {loaded : LoadResult} {pageSize : Option Double}

/-- The pages of a positive size partition the list. -/
theorem partitions_pageCount (hraw : loaded.raw.length ≤ maxArrayLength)
    (hok : pageSize.any isNotPositiveInteger = false) {size : ℕ} (hsize : 0 < size)
    (hpageSize : pageSize.getD (loaded.raw.length : Double) = (size : Double)) :
    Partitions loaded pageSize (pageCount loaded.raw.length size) where
  count := by
    intro q hq
    obtain rfl : (size : ℚ) = q := Double.finite.inj (hpageSize.symm.trans hq)
    rw [pageCount, Nat.cast_max, Nat.cast_one, Int.natCast_ceil_eq_ceil (by positivity)]
  page := by
    intro number haccepted
    obtain ⟨p, hp⟩ : ∃ p : ℕ, number.getD 1 = ((p + 1 : ℕ) : Double) := by
      rcases any_isNotPositiveInteger.mp (validatePageParams_eq_ok.mp haccepted).1 with
        rfl | ⟨p, rfl⟩
      · exact ⟨0, rfl⟩
      · exact ⟨p, rfl⟩
    refine ⟨_, getValidators_eq_ok hraw hsize haccepted hp hpageSize, hp.symm, hpageSize.symm, rfl,
      rfl, ?_, ?_⟩
    · rw [hp, Double.natCast_lt, decide_eq_decide]
      exact (succ_lt_pageCount hsize).symm
    · intro hbeyond
      rw [hp, Double.natCast_lt, decide_eq_true_iff] at hbeyond
      show (Found.page loaded.raw size p).map enrichApr = []
      rw [page_of_pageCount_le hsize (Nat.le_of_lt_succ hbeyond), List.map_nil]
  data := by
    have hpage : ∀ i : ℕ, validatePageParams { page := some ((i + 1 : ℕ) : Double), pageSize } =
        .ok () := by
      intro i
      exact validatePageParams_eq_ok.mpr ⟨any_isNotPositiveInteger.mpr (.inr ⟨i, rfl⟩), hok⟩
    refine ⟨_, mapM_eq_ok.mpr (List.forall₂_map_right_iff.mpr (List.forall₂_same.mpr
      fun i _ => getValidators_eq_ok hraw hsize (hpage i) rfl hpageSize)), ?_⟩
    rw [List.flatMap_map]
    show ((List.range (pageCount loaded.raw.length size)).flatMap fun i =>
      (Found.page loaded.raw size i).map enrichApr) = _
    rw [← List.map_flatMap, flatMap_page hsize]

/-- An empty list asked for without a page size. -/
theorem getValidators_noPageSize (hempty : loaded.raw = []) :
    ∃ result, getValidators (.ok loaded) {} = .ok result ∧
      result.pagination.totalPages = .nan := by
  refine ⟨_, rfl, ?_⟩
  simp only [hempty]
  decide +kernel

/-- **When the pages partition the list**: unless an empty list is asked for without a page
size. -/
theorem getValidators_partitions_iff (hraw : loaded.raw.length ≤ maxArrayLength)
    (haccepted : validatePageParams { pageSize } = .ok ()) :
    (∃ totalPages, Partitions loaded pageSize totalPages) ↔
      loaded.raw ≠ [] ∨ pageSize ≠ none := by
  have hok := (validatePageParams_eq_ok.mp haccepted).2
  constructor
  · rintro ⟨totalPages, hpart⟩
    by_contra hneither
    obtain ⟨hempty, hnone⟩ := not_or.mp hneither
    obtain rfl := not_not.mp hnone
    obtain ⟨result, hresult, hnan⟩ := getValidators_noPageSize (not_not.mp hempty)
    obtain ⟨result', hresult', -, -, -, htotal, -⟩ := hpart.page none haccepted
    obtain rfl := Except.ok.inj (hresult.symm.trans hresult')
    rw [hnan] at htotal
    cases htotal
  · intro hsome
    rcases any_isNotPositiveInteger.mp hok with rfl | ⟨k, rfl⟩
    · have hne : loaded.raw ≠ [] := hsome.resolve_right fun h => h rfl
      exact ⟨_, partitions_pageCount hraw hok (List.length_pos_of_ne_nil hne) rfl⟩
    · exact ⟨_, partitions_pageCount hraw hok (Nat.succ_pos k) rfl⟩

end partition

/-- Three witnesses, two a page. -/
theorem getValidators_partitions_threeWitnesses :
    ∃ totalPages, Partitions
      { raw := [
          { address := "TA", voteCount := 3, name := "a", isSr := true },
          { address := "TB", voteCount := 2, name := "b", isSr := true },
          { address := "TC", voteCount := 1, name := "c", isSr := false }]
        totalVotes := 6
        params := JsMap.empty }
      (some ((2 : ℕ) : Double)) totalPages :=
  (getValidators_partitions_iff (by decide)
    (validatePageParams_eq_ok.mpr
      ⟨rfl, any_isNotPositiveInteger.mpr (.inr ⟨1, rfl⟩)⟩)).mpr (.inr (by simp))

/-- An empty witness list, asked for without parameters: there is no number of pages. -/
theorem getValidators_emptyList :
    let loaded : LoadResult := { raw := [], totalVotes := 0, params := JsMap.empty }
    getValidators (.ok loaded) {} = .ok
      { data := []
        pagination :=
          { page := 1, pageSize := 0, total := 0, totalPages := .nan, hasNextPage := false } } ∧
      ¬∃ totalPages, Partitions loaded none totalPages := by
  intro loaded
  have hresult : getValidators (.ok loaded) {} = .ok
      { data := []
        pagination :=
          { page := 1, pageSize := 0, total := 0, totalPages := .nan, hasNextPage := false } } := by
    decide +kernel
  refine ⟨hresult, ?_⟩
  rintro ⟨totalPages, hpart⟩
  obtain ⟨result, hresult', -, -, -, htotal, -⟩ := hpart.page none rfl
  obtain rfl := Except.ok.inj (hresult.symm.trans hresult')
  cases htotal

end GuardianStake.Tron
