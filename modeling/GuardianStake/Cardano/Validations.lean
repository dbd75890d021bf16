import GuardianStake.Cardano.Types

/-!
# Cardano validations

The checks of `validations.ts` that fee estimation, coin selection and signing go through.

* `parseLovelaceString` reads a decimal numeral and nothing else; `parseLovelaceString_nonneg`
  and `parseLovelaceString_isOk` say what it guarantees.
-/

namespace GuardianStake.Cardano

open Sdk

/-- `/^\d+$/.test(value)`. -/
def isDigits (value : String) : Bool :=
  !value.toList.isEmpty && value.toList.all fun c => '0' ≤ c && c ≤ '9'

/-- Source: `validations.ts`, `parseLovelaceString`. -/
def parseLovelaceString (value fieldName : String) : Result ℤ :=
  if isDigits value then bigInt value
  else
    .error (.validation .invalidAmount
      s!"{fieldName} must be a non-negative integer string, got \"{value}\".")

/-- Source: `validations.ts`, `parseNonNegativeInteger`. -/
def parseNonNegativeInteger (value : Number) (fieldName : String) : Result ℤ :=
  let rejected : Thrown := .validation .invalidAmount
    s!"{fieldName} must be a non-negative integer, got \"{value.toText}\"."
  match value with
  | .int n => if n < 0 then .error rejected else .ok n
  | .other _ => .error rejected

/-- Source: `validations.ts`, `parsePoolId`. -/
def parsePoolId (sdk : CardanoSdk) (poolId : String) : Result String :=
  match sdk.poolIdToKeyHash poolId with
  | some keyHash => .ok keyHash
  | none =>
      .error (.validation .invalidAddress
        s!"\"{poolId}\" is not a valid Cardano pool ID (expected pool1...).")

/-- Source: `validations.ts`, `buildRewardAccount`. -/
def buildRewardAccount (sdk : CardanoSdk) (stakeKeyHashHex : String) : Result String := do
  let keyHash ← brand sdk.isKeyHash stakeKeyHashHex
  return sdk.createRewardAccount keyHash

/-- Source: `validations.ts`, `checkIfPaymentAddressIsValid`. -/
def checkIfPaymentAddressIsValid (sdk : CardanoSdk) (address : String) : Result Unit :=
  let expected : Thrown := .validation .invalidAddress
    s!"Expected a payment address (addr1...), got: \"{address}\"."
  match sdk.parseAddress address with
  | none => .error expected
  | some parsed =>
      if parsed.type = .rewardKey ∨ parsed.type = .rewardScript then .error expected
      else if !parsed.isMainnet then
        .error (.validation .invalidAddress
          (s!"Expected a mainnet payment address (addr1...), got a testnet address: "
            ++ s!"\"{address}\"."))
      else .ok ()

/-- Source: `validations.ts`, `getBaseAddressCredentials`. -/
def getBaseAddressCredentials (sdk : CardanoSdk) (address : String) : Result BaseCredentials :=
  match (sdk.parseAddress address).bind Address.asBase with
  | some credentials => .ok credentials
  | none =>
      .error (.validation .invalidAddress
        ("Cardano staking requires a base address (addr1q...) that carries a stake credential, "
          ++ s!"got: \"{address}\"."))

/-- Source: `validations.ts`, `parseCardanoPrivateKey`. -/
def parseCardanoPrivateKey (sdk : CardanoSdk) (value : String) : Result String :=
  let stripped :=
    match value.toList with
    | '0' :: 'x' :: rest => String.ofList rest
    | _ => value
  if sdk.isHexString stripped 64 then .ok stripped
  else
    .error (.validation .invalidPrivateKey
      "Cardano private key must be 32 bytes (64 hex characters).")

/-- Source: `validations.ts`, `parseCardanoPublicKey`. -/
def parseCardanoPublicKey (sdk : CardanoSdk) (value : String) : Result String :=
  if sdk.isHexString value 64 then .ok value
  else
    .error (.validation .invalidAddress
      "Cardano public key must be 32 bytes (64 hex characters).")

/-! ## What the numeral check guarantees -/

/-- A decimal digit has a value in base ten. -/
theorem digitValue_of_isDigit {c : Char} (h : ('0' ≤ c && c ≤ '9') = true) :
    ∃ v, digitValue 10 c = some v := by
  simp only [Bool.and_eq_true, decide_eq_true_eq] at h
  refine ⟨c.toNat - '0'.toNat, ?_⟩
  have hlow : '0'.toNat ≤ c.toNat := h.1
  have hhigh : c.toNat ≤ '9'.toNat := h.2
  have hlt : c.toNat - '0'.toNat < 10 := by
    have h0 : '0'.toNat = 48 := rfl
    have h9 : '9'.toNat = 57 := rfl
    omega
  simp only [digitValue, h, and_self, if_true, hlt]

/-- A numeral of decimal digits has a value. -/
theorem parseDigits_of_digits {cs : List Char} (hne : cs ≠ [])
    (h : ∀ c ∈ cs, ('0' ≤ c && c ≤ '9') = true) : ∃ n, parseDigits 10 cs = some n := by
  have hfold : ∀ (ds : List Char) (n : ℕ), (∀ c ∈ ds, ('0' ≤ c && c ≤ '9') = true) →
      ∃ m, ds.foldl (fun acc d => do
        let n ← acc
        let v ← digitValue 10 d
        some (10 * n + v)) (some n) = some m := by
    intro ds
    induction ds with
    | nil => exact fun n _ => ⟨n, rfl⟩
    | cons d ds ih =>
        intro n hds
        obtain ⟨v, hv⟩ := digitValue_of_isDigit (hds d List.mem_cons_self)
        simp only [List.foldl_cons, hv, Option.bind_eq_bind, Option.bind_some]
        exact ih _ fun c hc => hds c (List.mem_cons_of_mem _ hc)
  obtain ⟨c, cs, rfl⟩ := List.exists_cons_of_ne_nil hne
  exact hfold _ 0 h

/-- A decimal digit is not white space. -/
theorem not_isStrWhiteSpace_of_isDigit {c : Char} (h : ('0' ≤ c && c ≤ '9') = true) :
    isStrWhiteSpace c = false := by
  simp only [Bool.and_eq_true, decide_eq_true_eq] at h
  have hlow : 48 ≤ c.toNat := h.1
  have hhigh : c.toNat ≤ 57 := h.2
  simp only [isStrWhiteSpace, List.mem_cons, List.not_mem_nil, Bool.or_eq_false_iff,
    decide_eq_false_iff_not, Bool.and_eq_false_iff, or_false, not_or]
  refine ⟨?_, Or.inl ?_⟩ <;> omega

/-- Nothing is trimmed from a numeral of decimal digits. -/
theorem trimWhiteSpace_of_digits {cs : List Char}
    (h : ∀ c ∈ cs, ('0' ≤ c && c ≤ '9') = true) : trimWhiteSpace cs = cs := by
  have hkeep : ∀ ds : List Char, (∀ c ∈ ds, ('0' ≤ c && c ≤ '9') = true) →
      ds.dropWhile isStrWhiteSpace = ds := by
    intro ds hds
    cases ds with
    | nil => rfl
    | cons d ds =>
        simp [not_isStrWhiteSpace_of_isDigit (hds d List.mem_cons_self)]
  rw [trimWhiteSpace, hkeep cs h, hkeep cs.reverse fun c hc => h c (List.mem_reverse.mp hc),
    List.reverse_reverse]

/-- `BigInt` on a numeral of decimal digits is its value. -/
theorem bigInt_of_isDigits {value : String} (h : isDigits value = true) :
    ∃ n : ℕ, bigInt value = .ok n := by
  simp only [isDigits, Bool.and_eq_true, Bool.not_eq_true', List.isEmpty_eq_false_iff,
    List.all_eq_true] at h
  obtain ⟨hne, hdigits⟩ := h
  have hall : ∀ c ∈ value.toList, ('0' ≤ c && c ≤ '9') = true := by
    intro c hc
    simpa using hdigits c hc
  obtain ⟨n, hn⟩ := parseDigits_of_digits hne hall
  refine ⟨n, ?_⟩
  obtain ⟨c, cs, hcs⟩ := List.exists_cons_of_ne_nil hne
  rw [bigInt, trimWhiteSpace_of_digits hall]
  rw [hcs] at hn hall ⊢
  -- the prefixes of signed and non-decimal literals all hold a character that is no digit
  split
  · next heq =>
      split at heq <;> simp_all
  · next heq =>
      split at heq <;> simp_all

/-- A parsed lovelace amount is not negative. -/
theorem parseLovelaceString_nonneg {value fieldName : String} {n : ℤ}
    (h : parseLovelaceString value fieldName = .ok n) : 0 ≤ n := by
  simp only [parseLovelaceString] at h
  split at h
  · next hd =>
      obtain ⟨m, hm⟩ := bigInt_of_isDigits hd
      rw [hm] at h
      cases h
      exact Int.natCast_nonneg m
  · cases h

/-- A numeral of decimal digits is accepted. -/
theorem parseLovelaceString_isOk {value : String} (h : isDigits value = true)
    (fieldName : String) : ∃ n : ℤ, parseLovelaceString value fieldName = .ok n := by
  obtain ⟨m, hm⟩ := bigInt_of_isDigits h
  exact ⟨m, by rw [parseLovelaceString, if_pos h, hm]⟩

/-- What `parseNonNegativeInteger` lets through is an integer from zero on. -/
theorem parseNonNegativeInteger_eq_ok {value : Number} {fieldName : String} {n : ℤ} :
    parseNonNegativeInteger value fieldName = .ok n ↔ value = .int n ∧ 0 ≤ n := by
  cases value with
  | int m =>
      simp only [parseNonNegativeInteger, Number.int.injEq]
      by_cases hm : m < 0
      · simp only [if_pos hm, reduceCtorEq, false_iff, not_and, not_le]
        rintro rfl
        exact hm
      · simp only [if_neg hm, Except.ok.injEq]
        constructor
        · rintro rfl
          exact ⟨rfl, not_lt.mp hm⟩
        · rintro ⟨rfl, -⟩
          rfl
  | other text => simp [parseNonNegativeInteger]

end GuardianStake.Cardano
