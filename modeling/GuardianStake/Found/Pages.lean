import Mathlib

/-!
# Pages of a list

A list cut into pages of one size. Nothing here names a program.

* `page l size i` — the page after `i` others; `pageCount n size` — the number of pages, one at
  least.
* `flatMap_page` — **the pages make up the list**, each entry on one page.
* `succ_lt_pageCount` and `page_of_pageCount_le` — where the pages end.
-/

namespace GuardianStake.Found

universe u

variable {α : Type u}

/-- The page after `i` others. -/
def page (l : List α) (size i : ℕ) : List α := (l.drop (i * size)).take size

/-- The number of pages, one at least. -/
def pageCount (n size : ℕ) : ℕ := max 1 ⌈(n / size : ℚ)⌉₊

section

variable {l : List α} {n size i : ℕ}

/-- A page has the size, or is the rest. -/
theorem length_page : (page l size i).length = min size (l.length - i * size) := by
  rw [page, List.length_take, List.length_drop]

/-- An entry of a page by its place in the list. -/
theorem getElem?_page {j : ℕ} (hj : j < size) : (page l size i)[j]? = l[i * size + j]? := by
  rw [page, List.getElem?_take_of_lt hj, List.getElem?_drop]

/-- The first pages are the first entries. -/
theorem flatMap_page_range (l : List α) (size k : ℕ) :
    (List.range k).flatMap (page l size) = l.take (k * size) := by
  induction k with
  | zero => simp
  | succ k ih =>
      rw [List.range_succ, List.flatMap_append, ih, Nat.succ_mul, List.take_add]
      simp [page]

/-- The pages reach the end. -/
theorem le_pageCount_mul (hsize : 0 < size) : n ≤ pageCount n size * size := by
  have hpos : (0 : ℚ) < size := by exact_mod_cast hsize
  have hceil : (n / size : ℚ) ≤ (pageCount n size : ℕ) :=
    (Nat.le_ceil _).trans (by exact_mod_cast le_max_right _ _)
  rw [div_le_iff₀ hpos] at hceil
  exact_mod_cast hceil

/-- **The pages make up the list.** -/
theorem flatMap_page (hsize : 0 < size) :
    (List.range (pageCount l.length size)).flatMap (page l size) = l := by
  rw [flatMap_page_range]
  exact List.take_of_length_le (le_pageCount_mul hsize)

/-- A page has another one after it iff entries are left. -/
theorem succ_lt_pageCount (hsize : 0 < size) : i + 1 < pageCount n size ↔ (i + 1) * size < n := by
  have hpos : (0 : ℚ) < size := by exact_mod_cast hsize
  rw [pageCount, lt_max_iff, Nat.lt_ceil, lt_div_iff₀ hpos]
  constructor
  · rintro (h | h)
    · omega
    · exact_mod_cast h
  · intro h
    exact Or.inr (by exact_mod_cast h)

/-- There is nothing after the entries. -/
theorem page_of_le (h : l.length ≤ i * size) : page l size i = [] := by
  rw [page, List.drop_of_length_le h, List.take_nil]

/-- There is nothing after the last page. -/
theorem page_of_pageCount_le (hsize : 0 < size) (h : pageCount l.length size ≤ i) :
    page l size i = [] :=
  page_of_le ((le_pageCount_mul hsize).trans (Nat.mul_le_mul_right size h))

end

end GuardianStake.Found
