import GuardianStake.Sdk.Errors

/-!
# The part of the JavaScript runtime the SDK computes with

* `bigInt s` — `BigInt(s)` on a string: surrounding white space is dropped, the empty string is
  zero, a sign is allowed before decimal digits, `0x`, `0o` and `0b` literals are read unsigned,
  anything else is a `SyntaxError`.
* `Number` — a number field of a response, as far as the SDK tells values apart: integral ones and
  the rest.
* `sort cmp l` — `Array.prototype.sort`: stable, by the sign of the comparator.
* `JsMap κ α` — `Map`: entries in the order their keys were first set, one per key.

`bigint` values are `ℤ`; `BigInt` division truncates towards zero (`Int.tdiv`, `Int.tmod`).
-/

namespace GuardianStake.Sdk

/-! ## Numerals -/

/-- The value of a digit character in a base up to sixteen. -/
def digitValue (base : ℕ) (c : Char) : Option ℕ :=
  let v :=
    if '0' ≤ c ∧ c ≤ '9' then c.toNat - '0'.toNat
    else if 'a' ≤ c ∧ c ≤ 'f' then c.toNat - 'a'.toNat + 10
    else if 'A' ≤ c ∧ c ≤ 'F' then c.toNat - 'A'.toNat + 10
    else base
  if v < base then some v else none

/-- A digit is below the base. -/
theorem digitValue_lt {base : ℕ} {c : Char} {d : ℕ} (h : digitValue base c = some d) :
    d < base := by
  obtain ⟨hlt, heq⟩ := Option.ite_none_right_eq_some.mp h
  exact Option.some.inj heq ▸ hlt

/-- The value of a non-empty digit string. -/
def parseDigits (base : ℕ) : List Char → Option ℕ
  | [] => none
  | c :: cs =>
      (c :: cs).foldl (fun acc d => do
        let n ← acc
        let v ← digitValue base d
        some (base * n + v)) (some 0)

/-- White space and line terminators of the language. -/
def isStrWhiteSpace (c : Char) : Bool :=
  let n := c.toNat
  n ∈ [0x9, 0xA, 0xB, 0xC, 0xD, 0x20, 0xA0, 0x1680, 0x2028, 0x2029, 0x202F, 0x205F, 0x3000, 0xFEFF]
    || (0x2000 ≤ n && n ≤ 0x200A)

/-- A string without the white space around it. -/
def trimWhiteSpace (cs : List Char) : List Char :=
  ((cs.dropWhile isStrWhiteSpace).reverse.dropWhile isStrWhiteSpace).reverse

/-- `BigInt(s)` for a string `s`. -/
def bigInt (s : String) : Result ℤ :=
  let value : Option ℤ :=
    match trimWhiteSpace s.toList with
    | [] => some 0
    | '0' :: 'x' :: cs => (parseDigits 16 cs).map Int.ofNat
    | '0' :: 'X' :: cs => (parseDigits 16 cs).map Int.ofNat
    | '0' :: 'o' :: cs => (parseDigits 8 cs).map Int.ofNat
    | '0' :: 'O' :: cs => (parseDigits 8 cs).map Int.ofNat
    | '0' :: 'b' :: cs => (parseDigits 2 cs).map Int.ofNat
    | '0' :: 'B' :: cs => (parseDigits 2 cs).map Int.ofNat
    | '-' :: cs => (parseDigits 10 cs).map fun n => -Int.ofNat n
    | '+' :: cs => (parseDigits 10 cs).map Int.ofNat
    | cs => (parseDigits 10 cs).map Int.ofNat
  match value with
  | some n => .ok n
  | none => .error (.foreign s!"SyntaxError: Cannot convert {s} to a BigInt")

example : bigInt "2000000" = .ok 2000000 := by decide

example : bigInt " -0 " = .ok 0 ∧ bigInt "0x1F" = .ok 31 ∧ bigInt "" = .ok 0 := by decide

/-- A `number`: an integral value, or any other (fractional, `NaN`, infinite) by its printed
form. -/
inductive Number
  | int (n : ℤ)
  | other (text : String)
  deriving DecidableEq, Repr

/-- `String(value)`. -/
def Number.toText : Number → String
  | .int n => toString n
  | .other text => text

/-- `Number.MAX_SAFE_INTEGER`. -/
def maxSafeInteger : ℤ := 2 ^ 53 - 1

/-- The nearest number with 53 significant binary digits, ties to the even one. -/
def roundToDouble (n : ℕ) : ℕ :=
  if n < 2 ^ 53 then n
  else
    let unit := 2 ^ (Nat.log2 n - 52)
    let q := n / unit
    let r := n % unit
    (if unit < 2 * r ∨ (2 * r = unit ∧ q % 2 = 1) then q + 1 else q) * unit

/-- `Number(n)` for a `bigint`: the nearest double, infinite from `2 ^ 1024` on. -/
def toNumber (n : ℤ) : Number :=
  let m := roundToDouble n.natAbs
  if m < 2 ^ 1024 then .int (if n < 0 then -m else m)
  else .other (if n < 0 then "-Infinity" else "Infinity")

/-- Safe integers convert exactly. -/
theorem toNumber_of_safe {n : ℤ} (h : |n| ≤ maxSafeInteger) : toNumber n = .int n := by
  have hlt : n.natAbs < 2 ^ 53 := by
    rw [Int.abs_eq_natAbs, maxSafeInteger] at h
    omega
  have hround : roundToDouble n.natAbs = n.natAbs := if_pos hlt
  have hfinite : n.natAbs < 2 ^ 1024 := by
    calc n.natAbs < 2 ^ 53 := hlt
      _ < 2 ^ 1024 := by gcongr <;> simp
  rw [toNumber, hround, if_pos hfinite, Number.int.injEq]
  split <;> omega

example : toNumber (2 ^ 53 + 1) = .int (2 ^ 53) ∧ toNumber (2 ^ 53 + 3) = .int (2 ^ 53 + 4) := by
  decide +kernel

/-- `value <= 0`. -/
def Number.nonpos : Number → Bool
  | .int n => n ≤ 0
  | .other text => text = "-Infinity"

/-- `Number.isSafeInteger(value)`. -/
def Number.isSafeInteger : Number → Bool
  | .int n => |n| ≤ maxSafeInteger
  | .other _ => false

/-- `s.trim() === ""`. -/
def isBlank (s : String) : Bool := trimWhiteSpace s.toList = []

/-- A text that is not empty is there. -/
theorem eq_some_getD {o : Option String} (h : o.getD "" ≠ "") : o = some (o.getD "") := by
  cases o with
  | none => exact absurd rfl h
  | some s => rfl

/-! ## Sorting -/

section sort

variable {α : Type}

/-- `Array.prototype.sort` with a comparator: a stable sort in which `a` may stay before `b` when
`cmp a b` is not positive. -/
def sort (cmp : α → α → ℤ) (l : List α) : List α := l.insertionSort fun a b => cmp a b ≤ 0

/-- Sorting permutes. -/
theorem perm_sort (cmp : α → α → ℤ) (l : List α) : (sort cmp l).Perm l :=
  List.perm_insertionSort _ l

@[simp] theorem mem_sort {cmp : α → α → ℤ} {l : List α} {a : α} : a ∈ sort cmp l ↔ a ∈ l :=
  (perm_sort cmp l).mem_iff

variable {cmp : α → α → ℤ}

/-- Under a comparator that orders totally, sorting sorts. -/
theorem pairwise_sort (total : ∀ a b, cmp a b ≤ 0 ∨ cmp b a ≤ 0)
    (trans : ∀ a b c, cmp a b ≤ 0 → cmp b c ≤ 0 → cmp a c ≤ 0) (l : List α) :
    (sort cmp l).Pairwise fun a b => cmp a b ≤ 0 := by
  have : Std.Total fun a b => cmp a b ≤ 0 := ⟨total⟩
  have : IsTrans α fun a b => cmp a b ≤ 0 := ⟨trans⟩
  exact List.pairwise_insertionSort (fun a b => cmp a b ≤ 0) l

/-- Stability: items that tie with one another keep their order. -/
theorem filter_sort_of_ties (total : ∀ a b, cmp a b ≤ 0 ∨ cmp b a ≤ 0)
    (trans : ∀ a b c, cmp a b ≤ 0 → cmp b c ≤ 0 → cmp a c ≤ 0) {p : α → Bool}
    (ties : ∀ a b, p a = true → p b = true → cmp a b ≤ 0) (l : List α) :
    (sort cmp l).filter p = l.filter p := by
  have : Std.Total fun a b => cmp a b ≤ 0 := ⟨total⟩
  have : IsTrans α fun a b => cmp a b ≤ 0 := ⟨trans⟩
  -- the tied items stand in the sorted list in their old order, and there are no others
  have hpair : (l.filter p).Pairwise fun a b => cmp a b ≤ 0 :=
    List.pairwise_of_forall_mem_list fun a ha b hb =>
      ties a b (List.mem_filter.mp ha).2 (List.mem_filter.mp hb).2
  have hsub : (l.filter p).Sublist ((sort cmp l).filter p) := by
    simpa [sort] using (List.sublist_insertionSort hpair List.filter_sublist).filter p
  exact (hsub.eq_of_length ((perm_sort cmp l).filter p).length_eq.symm).symm

end sort

/-! ## Maps -/

/-- `Map`: entries in the order their keys were first set, one per key. -/
structure JsMap (κ α : Type) where
  entries : List (κ × α)
  nodup : (entries.map Prod.fst).Nodup

namespace JsMap

variable {κ α : Type} [DecidableEq κ]

/-- `new Map()`. -/
def empty : JsMap κ α := ⟨[], List.nodup_nil⟩

/-- `map.has(key)`. -/
def has (m : JsMap κ α) (key : κ) : Bool := key ∈ m.entries.map Prod.fst

/-- `[...map.values()]`. -/
def values (m : JsMap κ α) : List α := m.entries.map Prod.snd

/-- `map.set(key, value)`: in place for a key that is there, at the end for a new one. -/
def set (m : JsMap κ α) (key : κ) (value : α) : JsMap κ α :=
  if h : key ∈ m.entries.map Prod.fst then
    { entries := m.entries.map fun e => if e.1 = key then (key, value) else e
      nodup := by
        have hkeys : (m.entries.map fun e => if e.1 = key then (key, value) else e).map Prod.fst =
            m.entries.map Prod.fst := by
          rw [List.map_map]
          apply List.map_congr_left
          intro e _
          by_cases he : e.1 = key <;> simp [he]
        rw [hkeys]
        exact m.nodup }
  else
    { entries := m.entries ++ [(key, value)]
      nodup := by
        rw [List.map_append, List.nodup_append_comm]
        exact List.nodup_cons.mpr ⟨h, m.nodup⟩ }

/-- `map.get(key)`. -/
def get (m : JsMap κ α) (key : κ) : Option α := (m.entries.find? fun e => e.1 = key).map Prod.snd

/-- `map.delete(key)`. -/
def delete (m : JsMap κ α) (key : κ) : JsMap κ α where
  entries := m.entries.filter fun e => e.1 ≠ key
  nodup := m.nodup.sublist (List.filter_sublist.map Prod.fst)

@[simp] theorem get_empty (key : κ) : (empty : JsMap κ α).get key = none := rfl

/-- What stands under a key of a list of entries, put after a deletion. -/
theorem find?_filter_ne (l : List (κ × α)) (key key' : κ) :
    ((l.filter fun e => e.1 ≠ key).find? fun e => e.1 = key') =
      if key' = key then none else l.find? fun e => e.1 = key' := by
  induction l with
  | nil => simp
  | cons e l ih =>
      by_cases he : e.1 = key
      · rw [List.filter_cons_of_neg (by simpa using he), ih]
        split
        · rfl
        · next hne => rw [List.find?_cons_of_neg (by simpa [he] using Ne.symm hne)]
      · rw [List.filter_cons_of_pos (by simpa using he)]
        by_cases hk : e.1 = key'
        · have hne : key' ≠ key := hk ▸ he
          rw [List.find?_cons_of_pos (by simpa using hk), if_neg hne,
            List.find?_cons_of_pos (by simpa using hk)]
        · rw [List.find?_cons_of_neg (by simpa using hk), ih]
          split
          · rfl
          · rw [List.find?_cons_of_neg (by simpa using hk)]

/-- A deleted key has no value, the others keep theirs. -/
theorem get_delete (m : JsMap κ α) (key key' : κ) :
    (m.delete key).get key' = if key' = key then none else m.get key' := by
  rw [get, delete, find?_filter_ne]
  split <;> rfl

/-- What stands under a key of a list of entries, put after one key's value was replaced. -/
theorem find?_map_replace (l : List (κ × α)) (key key' : κ) (value : α) :
    ((l.map fun e => if e.1 = key then (key, value) else e).find? fun e => e.1 = key') =
      if key' = key then (l.find? fun e => e.1 = key).map fun _ => (key, value)
      else l.find? fun e => e.1 = key' := by
  induction l with
  | nil => simp
  | cons e l ih =>
      rw [List.map_cons]
      by_cases he : e.1 = key
      · by_cases hk : key' = key
        · subst hk
          simp [he]
        · have hne : ¬key = key' := Ne.symm hk
          rw [if_pos he, List.find?_cons_of_neg (by simpa using hne), ih, if_neg hk, if_neg hk,
            List.find?_cons_of_neg (by simpa [he] using hne)]
      · rw [if_neg he]
        by_cases hk : e.1 = key'
        · have hne : key' ≠ key := hk ▸ he
          rw [List.find?_cons_of_pos (by simpa using hk), if_neg hne,
            List.find?_cons_of_pos (by simpa using hk)]
        · rw [List.find?_cons_of_neg (by simpa using hk), ih,
            List.find?_cons_of_neg (by simpa using he),
            List.find?_cons_of_neg (by simpa using hk)]

/-- A key that was set has that value, the others keep theirs. -/
theorem get_set (m : JsMap κ α) (key key' : κ) (value : α) :
    (m.set key value).get key' = if key' = key then some value else m.get key' := by
  rw [get, set]
  split
  · next hmem =>
      rw [find?_map_replace]
      split
      · obtain ⟨e, he, hkey⟩ := List.mem_map.mp hmem
        cases hfind : m.entries.find? fun e => e.1 = key with
        | none => exact absurd hkey (by simpa using List.find?_eq_none.mp hfind e he)
        | some e => rfl
      · rfl
  · next hmem =>
      rw [List.find?_append]
      split
      · next heq =>
          subst heq
          have hnone : m.entries.find? (fun e => e.1 = key') = none := by
            apply List.find?_eq_none.mpr
            intro e he
            simpa using fun hkey => hmem (List.mem_map.mpr ⟨e, he, hkey⟩)
          simp [hnone]
      · next hne =>
          have hlast : [(key, value)].find? (fun e => e.1 = key') = none := by
            simpa using Ne.symm hne
          rw [hlast, Option.or_none]
          rfl

/-- What a map holds after entries were set one by one: the last one set. -/
theorem get_foldl_set (l : List (κ × α)) (m : JsMap κ α) (key : κ) :
    (l.foldl (fun m e => m.set e.1 e.2) m).get key =
      ((l.reverse.find? fun e => e.1 = key).map Prod.snd).or (m.get key) := by
  induction l generalizing m with
  | nil => rfl
  | cons e l ih =>
      rw [List.foldl_cons, ih, get_set, List.reverse_cons, List.find?_append]
      cases hfind : l.reverse.find? fun e => e.1 = key with
      | some e' => rfl
      | none =>
          by_cases hkey : key = e.1
          · simp [hkey]
          · simp [hkey, Ne.symm hkey]

/-- Setting a key adds its entry and no other. -/
theorem mem_entries_set {m : JsMap κ α} {key : κ} {value : α} {e : κ × α}
    (h : e ∈ (m.set key value).entries) : e = (key, value) ∨ e ∈ m.entries := by
  rw [set] at h
  split at h
  · obtain ⟨e', he', rfl⟩ := List.mem_map.mp h
    split
    · exact Or.inl rfl
    · exact Or.inr he'
  · exact (List.mem_append.mp h).symm.imp_left List.mem_singleton.mp

/-- A key has a value iff they are an entry. -/
theorem get_eq_some_iff {m : JsMap κ α} {key : κ} {value : α} :
    m.get key = some value ↔ (key, value) ∈ m.entries := by
  have hnodup := m.nodup
  unfold get
  generalize m.entries = l at hnodup
  induction l with
  | nil => simp
  | cons e l ih =>
      rw [List.map_cons, List.nodup_cons] at hnodup
      by_cases he : e.1 = key
      · -- the first entry of the key is its only one
        have hnotMem : (key, value) ∉ l := fun hmem =>
          hnodup.1 (he ▸ List.mem_map_of_mem (f := Prod.fst) hmem)
        rw [List.find?_cons_of_pos (by simpa using he), List.mem_cons, or_iff_left hnotMem]
        constructor
        · rintro h
          obtain rfl := Option.some.inj h
          rw [← he]
        · rintro rfl
          rfl
      · have hne : (key, value) ≠ e := fun heq => he (heq ▸ rfl)
        rw [List.find?_cons_of_neg (by simpa using he), List.mem_cons, or_iff_right hne]
        exact ih hnodup.2

/-- A key is there iff it has a value. -/
theorem has_eq_isSome (m : JsMap κ α) (key : κ) : m.has key = (m.get key).isSome := by
  rw [Bool.eq_iff_iff, has, decide_eq_true_eq, Option.isSome_iff_exists]
  simp only [get_eq_some_iff, List.mem_map, Prod.exists, exists_and_right, exists_eq_right]

/-- A new key goes to the end. -/
theorem entries_set_of_notMem {m : JsMap κ α} {key : κ} (h : key ∉ m.entries.map Prod.fst)
    (value : α) : (m.set key value).entries = m.entries ++ [(key, value)] := by
  rw [set, dif_neg h]

omit [DecidableEq κ] in
@[ext] theorem ext {m m' : JsMap κ α} (h : m.entries = m'.entries) : m = m' := by
  cases m
  cases m'
  congr

instance [DecidableEq α] : DecidableEq (JsMap κ α) := fun m m' =>
  decidable_of_iff (m.entries = m'.entries) ⟨ext, fun h => h ▸ rfl⟩

/-- Setting the one key of a map leaves nothing of its old value. -/
theorem entries_set_of_keys_eq {m : JsMap κ α} {key : κ} (h : m.entries.map Prod.fst = [key])
    (value : α) : (m.set key value).entries = [(key, value)] := by
  obtain ⟨e, hentries, hkey⟩ := List.map_eq_singleton_iff.mp h
  have hmem : key ∈ m.entries.map Prod.fst := by simp [h]
  rw [set, dif_pos hmem]
  simp [hentries, hkey]

end JsMap

end GuardianStake.Sdk
