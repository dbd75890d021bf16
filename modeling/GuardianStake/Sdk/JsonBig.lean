import GuardianStake.Found.Json
import GuardianStake.Sdk.Doubles

/-!
# JSON texts, and the two decoders of numbers

What `JSON.stringify` writes and what `json-bigint` reads, each on the value a text stands for.
Their number models differ: a `number` is written in the fewest digits that read back as it, an
integer literal of more than 15 characters is read as a `bigint`, and a `bigint` cannot be written.
The parser is a parameter; `JsonBig.Documented` is what is relied on.

* `Number.literal` — what is written for a `number`.
* `mem_numbers_stringify` — the literals of a text, in terms of the numbers written.
* `parse_of_readable` — **what is read** of a text whose literals can be.
* `stringify_valueOf` — **what is written, read and written again is the same text** if no literal
  is long; `stringify_valueOf_of_long` — else it cannot be written.
-/

namespace GuardianStake.Sdk

open Found

/-! ## Literals -/

/-- A number in a JSON text: an integer literal by its value, or one with a fraction or an exponent
by its characters and the `number` it denotes. -/
inductive NumberLiteral
  | integer (value : ℤ)
  | real (text : String) (value : Number)
  deriving DecidableEq, Repr

/-- The characters of an integer literal. -/
def literalLength (value : ℤ) : ℕ :=
  (if value < 0 then 1 else 0) + max 1 (Nat.digits 10 value.natAbs).length

/-- A literal of more than 15 characters. -/
def NumberLiteral.isLong : NumberLiteral → Bool
  | .integer value => 15 < literalLength value
  | .real text _ => 15 < text.length

/-- The multiple of a power of ten that is read back as `n`, the closer one of two, the even one of
two that are equally close. -/
def multipleReadAs (n unit : ℕ) : Option ℕ :=
  let q := n / unit
  let lower := q * unit
  let upper := (q + 1) * unit
  if roundToDouble lower = n then
    if roundToDouble upper = n ∧ (upper - n < n - lower ∨ (upper - n = n - lower ∧ q % 2 = 1)) then
      some upper
    else some lower
  else if roundToDouble upper = n then some upper
  else none

/-- The integer `String(n)` writes for an integral number below `10 ^ 21`: the fewest significant
digits that are read back as `n`. -/
def printedInteger (n : ℕ) : ℕ :=
  let length := (Nat.digits 10 n).length
  ((List.range length).findSome? fun k => multipleReadAs n (10 ^ (length - 1 - k))).getD n

/-- What `String(n)` writes for an integral number from `10 ^ 21` on: the same digits, with a point
after the first and an exponent. -/
def exponentText (n : ℤ) : String :=
  let digits := (Nat.digits 10 (printedInteger n.natAbs)).reverse
  let significant := ((digits.reverse.dropWhile (· = 0)).reverse).map Nat.digitChar
  let fraction := if significant.tail.isEmpty then [] else '.' :: significant.tail
  (if n < 0 then "-" else "") ++ String.ofList (significant.take 1 ++ fraction)
    ++ s!"e+{digits.length - 1}"

/-- Neither `NaN` nor infinite. -/
def Number.isFinite : Number → Bool
  | .int _ => true
  | .other text => text ∉ ["NaN", "Infinity", "-Infinity"]

/-- What `JSON.stringify` writes for a number, if it does not write `null`: digits below `10 ^ 21`,
an exponent from there on. -/
def Number.literal : Number → Option NumberLiteral
  | .int n =>
      if n.natAbs < 10 ^ 21 then some (.integer (n.sign * printedInteger n.natAbs))
      else some (.real (exponentText n) (.int n))
  | .other text =>
      if (Number.other text).isFinite then some (.real text (.other text)) else none

example : (Number.int (2 ^ 60)).literal = some (.integer 1152921504606847000) ∧
    (Number.int (-(10 ^ 21))).literal = some (.real "-1e+21" (.int (-(10 ^ 21)))) ∧
    exponentText (2 ^ 70) = "1.1805916207174113e+21" := by
  decide +kernel

/-! ## Texts and values -/

/-- A number of the runtime. -/
inductive JsNumber
  | number (x : Number)
  | bigint (n : ℤ)
  deriving DecidableEq, Repr

/-- A decoded value. -/
abbrev JsValue := Json JsNumber

/-- The value a JSON text stands for. -/
abbrev Document := Json NumberLiteral

/-- Whether a number is a `bigint`. -/
def JsNumber.isBigint : JsNumber → Bool
  | .number _ => false
  | .bigint _ => true

/-- A number as it is written, where it can be. -/
def JsNumber.print : JsNumber → Document
  | .number x =>
      match x.literal with
      | some literal => .number literal
      | none => .null
  | .bigint _ => .null

/-- `JSON.stringify(value)`: it throws on the first `bigint` it comes to. -/
def stringify (value : JsValue) : Result Document :=
  if value.numbers.any JsNumber.isBigint then
    .error (.foreign "Do not know how to serialize a BigInt")
  else .ok (value.bind JsNumber.print)

/-! ## The parser -/

/-- A key that `json-bigint` takes as it is, and that keeps its place: it refuses what looks like
`__proto__` or `constructor`, escaped or not, and the runtime moves indices to the front. -/
def OrdinaryKey (key : String) : Prop :=
  ¬ "__proto__".toList <:+: key.toList ∧ ¬ "constructor".toList <:+: key.toList ∧
    '\\' ∉ key.toList ∧ (key.toList.head?.any Char.isDigit) = false

instance (key : String) : Decidable (OrdinaryKey key) :=
  inferInstanceAs (Decidable (_ ∧ _ ∧ _ ∧ _))

/-- Every object has different keys, all of them ordinary. -/
def OrdinaryKeys {ν : Type} (value : Json ν) : Prop :=
  ∀ keys ∈ value.objectKeys, keys.Nodup ∧ ∀ key ∈ keys, OrdinaryKey key

instance {ν : Type} (value : Json ν) : Decidable (OrdinaryKeys value) :=
  inferInstanceAs (Decidable (∀ keys ∈ value.objectKeys, _ ∧ _))

/-- `json-bigint` with `useNativeBigInt`: what its `number()` makes of a literal, and what `parse`
makes of a text. -/
structure JsonBig where
  number : NumberLiteral → Result JsNumber
  parse : Document → Result JsValue

namespace JsonBig

/-- The value of a text whose literals are all read. -/
def valueOf (jsonBig : JsonBig) (text : Document) : JsValue :=
  text.bind fun literal =>
    match jsonBig.number literal with
    | .ok n => .number n
    | .error _ => .null

/-- What is relied on of `json-bigint`. An integer literal of more than 15 characters becomes a
`bigint`, a literal that is not longer a `number`; on a longer one with a point or an exponent
`BigInt` throws. A text with ordinary keys is parsed literal by literal, and one with a literal that
throws is not parsed. -/
structure Documented (jsonBig : JsonBig) : Prop where
  short : ∀ {v}, literalLength v ≤ 15 → jsonBig.number (.integer v) = .ok (.number (.int v))
  long : ∀ {v}, 15 < literalLength v → v.natAbs < 2 ^ 1023 →
    jsonBig.number (.integer v) = .ok (.bigint v)
  shortReal : ∀ {text x}, text.length ≤ 15 → x.isFinite = true →
    jsonBig.number (.real text x) = .ok (.number x)
  longReal : ∀ {text x}, 15 < text.length → ∃ error, jsonBig.number (.real text x) = .error error
  parse_ok : ∀ {text}, OrdinaryKeys text →
    (∀ literal ∈ text.numbers, ∃ n, jsonBig.number literal = .ok n) →
      jsonBig.parse text = .ok (jsonBig.valueOf text)
  parse_error : ∀ {text literal error}, literal ∈ text.numbers →
    jsonBig.number literal = .error error → ∃ error, jsonBig.parse text = .error error

end JsonBig

/-- A literal that is read: an integer in the range of a `number`, or another finite one that is not
long. -/
def NumberLiteral.Readable : NumberLiteral → Prop
  | .integer v => v.natAbs < 2 ^ 1023
  | .real text x => text.length ≤ 15 ∧ x.isFinite = true

instance : DecidablePred NumberLiteral.Readable
  | .integer _ => inferInstanceAs (Decidable (_ < _))
  | .real _ _ => inferInstanceAs (Decidable (_ ∧ _))

/-! ## What is read back -/

section printed

variable {n m unit : ℕ}

/-- The multiple found is read back as the number. -/
theorem roundToDouble_multipleReadAs (h : multipleReadAs n unit = some m) :
    roundToDouble m = n := by
  unfold multipleReadAs at h
  simp only at h
  split at h
  · next hlower =>
      split at h
      · next hupper =>
          obtain rfl := Option.some.inj h
          exact hupper.1
      · obtain rfl := Option.some.inj h
        exact hlower
  · split at h
    · next hupper =>
        obtain rfl := Option.some.inj h
        exact hupper
    · cases h

/-- A double is read back from what is written for it. -/
theorem roundToDouble_printedInteger (h : roundToDouble n = n) :
    roundToDouble (printedInteger n) = n := by
  unfold printedInteger
  simp only
  cases hfind : (List.range (Nat.digits 10 n).length).findSome? fun k =>
      multipleReadAs n (10 ^ ((Nat.digits 10 n).length - 1 - k)) with
  | none => exact h
  | some m =>
      obtain ⟨k, -, hk⟩ := List.exists_of_findSome?_eq_some hfind
      exact roundToDouble_multipleReadAs hk

/-- All digits are written below `2 ^ 53`. -/
theorem printedInteger_of_lt (hn : n < 2 ^ 53) : printedInteger n = n :=
  eq_of_roundToDouble_eq hn (roundToDouble_printedInteger (roundToDouble_of_lt hn))

/-- What is written for a double is not below an integer that it is not below. -/
theorem le_printedInteger (hm : m < 2 ^ 53) (hn : roundToDouble n = n) (h : m ≤ n) :
    m ≤ printedInteger n := by
  by_contra hlt
  have hsmall : printedInteger n < 2 ^ 53 := by omega
  have hread := roundToDouble_printedInteger hn
  rw [roundToDouble_of_lt hsmall] at hread
  omega

/-- What is written with digits for a number is not much larger than it. -/
theorem printedInteger_lt (hn : n < 2 ^ 70) : printedInteger n < 2 ^ 70 := by
  by_contra hge
  have hread : roundToDouble (printedInteger n) = n ∨ printedInteger n = n := by
    unfold printedInteger
    simp only
    cases hfind : (List.range (Nat.digits 10 n).length).findSome? fun k =>
        multipleReadAs n (10 ^ ((Nat.digits 10 n).length - 1 - k)) with
    | none => exact Or.inr rfl
    | some m =>
        obtain ⟨k, -, hk⟩ := List.exists_of_findSome?_eq_some hfind
        exact Or.inl (roundToDouble_multipleReadAs hk)
  have hround : 2 ^ 70 ≤ roundToDouble (printedInteger n) := by
    calc 2 ^ 70 = roundToDouble (2 ^ 70) := by decide +kernel
      _ ≤ roundToDouble (printedInteger n) := roundToDouble_mono (not_lt.mp hge)
  omega

end printed

/-! ### Literals -/

section literals

variable {v : ℤ} {x : Number} {literal : NumberLiteral}

/-- The digits of a short literal. -/
theorem natAbs_lt_of_literalLength_le (h : literalLength v ≤ 15) : v.natAbs < 10 ^ 15 := by
  unfold literalLength at h
  exact (Nat.digits_length_le_iff (by norm_num) _).mp (by omega)

/-- An integer that is not negative is short up to 15 digits. -/
theorem literalLength_le_iff (hv : 0 ≤ v) : literalLength v ≤ 15 ↔ v < 10 ^ 15 := by
  constructor
  · intro h
    have hlt := natAbs_lt_of_literalLength_le h
    omega
  · intro h
    have hle : (Nat.digits 10 v.natAbs).length ≤ 15 :=
      (Nat.digits_length_le_iff (by norm_num) _).mpr (by omega)
    unfold literalLength
    rw [if_neg (by omega)]
    omega

/-- A literal that is not an integer's is written for the number it denotes. -/
theorem literal_eq_real {literalText : String} {x' : Number}
    (h : x.literal = some (.real literalText x')) : x = x' := by
  cases x with
  | int n =>
      rw [Number.literal] at h
      split at h
      · cases h
      · exact (NumberLiteral.real.inj (Option.some.inj h)).2
  | other text =>
      rw [Number.literal] at h
      split at h
      · exact (NumberLiteral.real.inj (Option.some.inj h)).2
      · cases h

/-- A safe integer is written with all its digits. -/
theorem literal_of_lt (hv : v.natAbs < 2 ^ 53) : (Number.int v).literal = some (.integer v) := by
  have hlt : v.natAbs < 10 ^ 21 := hv.trans (by norm_num)
  rw [Number.literal, if_pos hlt, printedInteger_of_lt hv, Int.sign_mul_natAbs]

/-- An integer literal that is written is read. -/
theorem readable_of_literal (h : x.literal = some (.integer v)) :
    NumberLiteral.Readable (.integer v) := by
  have hfinite : (2 : ℕ) ^ 70 < 2 ^ 1023 := by gcongr <;> simp
  cases x with
  | int n =>
      rw [Number.literal] at h
      split at h
      · next hlt =>
          obtain rfl := NumberLiteral.integer.inj (Option.some.inj h)
          have hprinted := printedInteger_lt (hlt.trans (by norm_num : 10 ^ 21 < 2 ^ 70))
          have hsign : n.sign.natAbs ≤ 1 := by
            rcases Int.sign_trichotomy n with h | h | h <;> rw [h] <;> decide
          have hle : (n.sign * (printedInteger n.natAbs : ℤ)).natAbs ≤
              printedInteger n.natAbs := by
            rw [Int.natAbs_mul, Int.natAbs_natCast]
            exact (Nat.mul_le_mul_right _ hsign).trans_eq (one_mul _)
          exact (hle.trans_lt hprinted).trans hfinite
      · cases h
  | other text =>
      rw [Number.literal] at h
      split at h <;> cases h

end literals

/-! ### Texts -/

section texts

variable {jsonBig : JsonBig} {value : JsValue} {text : Document} {literal : NumberLiteral}
  {x : Number}

/-- The literals of a text are those of the numbers written. -/
theorem mem_numbers_stringify (h : stringify value = .ok text) :
    literal ∈ text.numbers ↔
      ∃ x : Number, .number x ∈ value.numbers ∧ x.literal = some literal := by
  unfold stringify at h
  split at h
  · cases h
  · next hnone =>
      obtain rfl := Except.ok.inj h
      rw [Json.numbers_bind, List.mem_flatMap]
      constructor
      · rintro ⟨n, hn, hmem⟩
        cases n with
        | bigint n => exact absurd hmem List.not_mem_nil
        | number x =>
            refine ⟨x, hn, ?_⟩
            unfold JsNumber.print at hmem
            cases hx : x.literal with
            | none =>
                simp only [hx] at hmem
                exact absurd hmem List.not_mem_nil
            | some l =>
                simp only [hx] at hmem
                rw [List.mem_singleton.mp hmem]
      · rintro ⟨x, hx, hliteral⟩
        refine ⟨.number x, hx, ?_⟩
        simp only [JsNumber.print, hliteral]
        exact List.mem_singleton_self literal

/-- A new ordinary key, for a value without objects, leaves the keys ordinary. -/
theorem ordinaryKeys_set {ν : Type} {v item : Json ν} {key : String} (hnew : v.get key = none)
    (hitem : item.objectKeys = []) (hkey : OrdinaryKey key) (h : OrdinaryKeys v) :
    OrdinaryKeys (v.set key item) := by
  intro keys hmem
  rcases Json.mem_objectKeys_set hnew hitem hmem with hold | ⟨keys', hold, hfresh, rfl⟩
  · exact h keys hold
  · obtain ⟨hnodup, hall⟩ := h keys' hold
    refine ⟨hnodup.append (List.nodup_singleton key) ?_, fun k hk => ?_⟩
    · exact List.disjoint_singleton.mpr hfresh
    · rcases List.mem_append.mp hk with hk | hk
      · exact hall k hk
      · exact List.mem_singleton.mp hk ▸ hkey

/-- What is written has the keys of the value. -/
theorem ordinaryKeys_stringify (h : stringify value = .ok text) (hkeys : OrdinaryKeys value) :
    OrdinaryKeys text := by
  unfold stringify at h
  split at h
  · cases h
  · obtain rfl := Except.ok.inj h
    have hprint : ∀ n : JsNumber, n.print.objectKeys = [] := by
      intro n
      cases n with
      | number x => cases hx : x.literal <;> simp only [JsNumber.print, hx] <;> rfl
      | bigint n => rfl
    unfold OrdinaryKeys
    rw [Json.objectKeys_bind hprint]
    exact hkeys

namespace JsonBig

/-- What a readable literal is read as is a `bigint` iff the literal is long. -/
theorem Documented.number_of_readable (hdoc : jsonBig.Documented) (h : literal.Readable) :
    ∃ n, jsonBig.number literal = .ok n ∧ n.isBigint = literal.isLong := by
  cases literal with
  | integer v =>
      by_cases hlong : 15 < literalLength v
      · exact ⟨_, hdoc.long hlong h, (decide_eq_true hlong).symm⟩
      · exact ⟨_, hdoc.short (not_lt.mp hlong), (decide_eq_false hlong).symm⟩
  | real text x => exact ⟨_, hdoc.shortReal h.1 h.2, (decide_eq_false (not_lt.mpr h.1)).symm⟩

/-- **What is read** of a text with ordinary keys whose literals can be read. -/
theorem Documented.parse_of_readable (hdoc : jsonBig.Documented) (hkeys : OrdinaryKeys text)
    (hread : ∀ literal ∈ text.numbers, literal.Readable) :
    jsonBig.parse text = .ok (jsonBig.valueOf text) :=
  hdoc.parse_ok hkeys fun literal hmem =>
    let ⟨n, hn, _⟩ := hdoc.number_of_readable (hread literal hmem)
    ⟨n, hn⟩

/-- What is read has a `bigint` iff the text has a long literal. -/
theorem Documented.any_isBigint_valueOf (hdoc : jsonBig.Documented)
    (hread : ∀ literal ∈ text.numbers, literal.Readable) :
    (jsonBig.valueOf text).numbers.any JsNumber.isBigint =
      text.numbers.any NumberLiteral.isLong := by
  rw [valueOf, Json.numbers_bind, List.any_flatMap, Bool.eq_iff_iff, List.any_eq_true,
    List.any_eq_true]
  refine exists_congr fun literal => and_congr_right fun hmem => ?_
  obtain ⟨n, hn, hbigint⟩ := hdoc.number_of_readable (hread literal hmem)
  simp [hn, hbigint]

/-- What is read of a text with a long literal is not written again. -/
theorem Documented.stringify_valueOf_of_long (hdoc : jsonBig.Documented)
    (hread : ∀ literal ∈ text.numbers, literal.Readable)
    (h : ∃ literal ∈ text.numbers, literal.isLong = true) :
    stringify (jsonBig.valueOf text) =
      .error (.foreign "Do not know how to serialize a BigInt") := by
  unfold stringify
  rw [hdoc.any_isBigint_valueOf hread, if_pos (List.any_eq_true.mpr h)]

/-- **A short literal that was written is read as what is written as it.** -/
theorem Documented.print_number (hdoc : jsonBig.Documented) (hwritten : x.literal = some literal)
    (hread : literal.Readable) (hshort : literal.isLong = false) :
    ∃ n, jsonBig.number literal = .ok n ∧ n.print = .number literal := by
  cases literal with
  | integer v =>
      have hlength : literalLength v ≤ 15 := not_lt.mp (of_decide_eq_false hshort)
      have hsafe : v.natAbs < 2 ^ 53 := (natAbs_lt_of_literalLength_le hlength).trans (by norm_num)
      exact ⟨_, hdoc.short hlength, by simp only [JsNumber.print, literal_of_lt hsafe]⟩
  | real text x' =>
      obtain rfl := literal_eq_real hwritten
      exact ⟨_, hdoc.shortReal hread.1 hread.2, by simp only [JsNumber.print, hwritten]⟩

/-- **A written text without a long literal is read and written as the same text.** -/
theorem Documented.stringify_valueOf (hdoc : jsonBig.Documented)
    (hwritten : ∀ literal ∈ text.numbers, ∃ x : Number, x.literal = some literal)
    (hread : ∀ literal ∈ text.numbers, literal.Readable)
    (hshort : ∀ literal ∈ text.numbers, literal.isLong = false) :
    stringify (jsonBig.valueOf text) = .ok text := by
  have hnone : ¬text.numbers.any NumberLiteral.isLong = true := by
    rw [List.any_eq_true]
    rintro ⟨literal, hmem, hlong⟩
    rw [hshort literal hmem] at hlong
    cases hlong
  unfold stringify
  rw [hdoc.any_isBigint_valueOf hread, if_neg hnone, valueOf, Json.bind_bind]
  congr 1
  apply Json.bind_eq_self
  intro literal hmem
  obtain ⟨x, hx⟩ := hwritten literal hmem
  obtain ⟨n, hn, hprint⟩ := hdoc.print_number hx (hread literal hmem) (hshort literal hmem)
  simp only [hn, Json.bind, hprint]

end JsonBig

end texts

/-! ### A parser -/

/-- What a literal is read as, by its length. -/
def numberByLength : NumberLiteral → Result JsNumber
  | .integer v => .ok (if 15 < literalLength v then .bigint v else .number (.int v))
  | .real text x =>
      if 15 < text.length then .error (.foreign s!"SyntaxError: Cannot convert {text} to a BigInt")
      else .ok (.number x)

/-- A parser that reads any text, unless a literal throws. -/
def vectorJsonBig : JsonBig where
  number := numberByLength
  parse := fun text =>
    if text.numbers.all fun literal => (numberByLength literal).toBool then
      .ok (text.bind fun literal =>
        match numberByLength literal with
        | .ok n => .number n
        | .error _ => .null)
    else .error (.foreign "SyntaxError")

/-- It does what is relied on. -/
theorem vectorJsonBig_documented : vectorJsonBig.Documented where
  short := fun h => by simp [vectorJsonBig, numberByLength, not_lt.mpr h]
  long := fun h _ => by simp [vectorJsonBig, numberByLength, h]
  shortReal := fun h _ => by simp [vectorJsonBig, numberByLength, not_lt.mpr h]
  longReal := fun h => ⟨_, if_pos h⟩
  parse_ok := by
    intro text _ h
    refine if_pos (List.all_eq_true.mpr fun literal hmem => ?_)
    obtain ⟨n, hn⟩ := h literal hmem
    exact congrArg Except.toBool hn
  parse_error := by
    intro text literal error hmem h
    refine ⟨_, if_neg fun hall => ?_⟩
    have hok := List.all_eq_true.mp hall literal hmem
    have hthrows : (numberByLength literal).toBool = false := congrArg Except.toBool h
    rw [hthrows] at hok
    cases hok

end GuardianStake.Sdk
