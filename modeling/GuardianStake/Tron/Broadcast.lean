import GuardianStake.Tron.ExactAmounts
import GuardianStake.Tron.RpcClient
import GuardianStake.Tron.SignService

/-!
# Broadcasting what was signed

A signed text is written by `JSON.stringify`, read by `json-bigint` and written again by the HTTP
client. An integer literal of more than 15 digits comes out of the second stage as a `bigint`, which
the third one cannot write.

* `literalLength_toNumber` — the numbers of votes whose literal is long: those in between the
  numbers with short literals and those written with an exponent, of which TronWeb reads one digit.
* `Signed.shortAmounts_iff` — when all literals of a signed text are short.
* `broadcast_posts_signed_iff` — **when the signed text is posted**.
* `broadcast_largeFreeze` — a freeze that is signed and cannot be broadcast.
-/

namespace GuardianStake.Tron

open Sdk Found

/-- The amount of a transaction is written with 15 digits at most, or with an exponent. Votes are
counted in whole TRX; from `10 ^ 21 - 2 ^ 16` on, their count is converted to `10 ^ 21` or more, and
one digit of it is signed. -/
def ShortAmount : Transaction → Prop
  | .delegate base _ _ _ | .undelegate base _ _ _ _ => base.amount < 10 ^ 15
  | .vote base _ =>
      base.amount / sunPerTrx < 10 ^ 15 ∨ 10 ^ 21 - 2 ^ 16 ≤ base.amount / sunPerTrx
  | _ => True

/-! ## The literals of amounts -/

section literals

variable {v : ℤ}

/-- A safe integer has a short literal iff it has 15 digits at most. -/
theorem literalLength_of_safe (hv : 0 ≤ v) (hsafe : v < 2 ^ 53) :
    (∀ w, (Number.int v).literal = some (.integer w) → literalLength w ≤ 15) ↔ v < 10 ^ 15 := by
  rw [literal_of_lt (by omega), ← literalLength_le_iff hv]
  constructor
  · intro h
    exact h v rfl
  · rintro h w hw
    exact NumberLiteral.integer.inj (Option.some.inj hw) ▸ h

/-- An integral double from `10 ^ 15` on has a long literal below `10 ^ 21`. -/
theorem exists_literal_of_double {n : ℕ} (hdouble : roundToDouble n = n) (hn : 10 ^ 15 ≤ n)
    (hlt : n < 10 ^ 21) :
    ∃ w, (Number.int n).literal = some (.integer w) ∧ 15 < literalLength w := by
  have hprinted : 10 ^ 15 ≤ printedInteger n := le_printedInteger (by norm_num) hdouble hn
  have hsign : (n : ℤ).sign = 1 := Int.sign_eq_one_of_pos (by omega)
  refine ⟨printedInteger n, ?_, ?_⟩
  · rw [Number.literal, Int.natAbs_natCast, if_pos hlt, hsign, one_mul]
  · by_contra hshort
    have hdigits := (literalLength_le_iff (Int.natCast_nonneg _)).mp (not_lt.mp hshort)
    omega

/-- The integers that are converted to less than `10 ^ 21`: the last double below it is `2 ^ 17`
away. -/
theorem roundToDouble_lt_iff {n : ℕ} : roundToDouble n < 10 ^ 21 ↔ n < 10 ^ 21 - 2 ^ 16 := by
  constructor
  · intro h
    by_contra hge
    have hround : 10 ^ 21 ≤ roundToDouble n := by
      calc 10 ^ 21 = roundToDouble (10 ^ 21 - 2 ^ 16) := by decide +kernel
        _ ≤ roundToDouble n := roundToDouble_mono (not_lt.mp hge)
    exact absurd h (not_lt.mpr hround)
  · intro h
    calc roundToDouble n ≤ roundToDouble (10 ^ 21 - 2 ^ 16 - 1) := roundToDouble_mono (by omega)
      _ = 10 ^ 21 - 2 ^ 17 := by decide +kernel
      _ < 10 ^ 21 := by norm_num

/-- **The numbers of votes whose literal is short**: up to 15 digits, or written with an
exponent. -/
theorem literalLength_toNumber (hv : 0 < v) :
    (∀ w, (toNumber v).literal = some (.integer w) → literalLength w ≤ 15) ↔
      v < 10 ^ 15 ∨ 10 ^ 21 - 2 ^ 16 ≤ v := by
  rcases lt_or_ge v (10 ^ 15) with hsmall | hlarge
  · have hnumber : toNumber v = .int v := by
      apply toNumber_of_safe
      rw [abs_of_pos hv, maxSafeInteger]
      omega
    rw [hnumber, literalLength_of_safe hv.le (by omega)]
    exact iff_of_true hsmall (Or.inl hsmall)
  · obtain ⟨n, rfl⟩ := Int.eq_ofNat_of_zero_le hv.le
    have hnumber : toNumber n =
        if roundToDouble n < 2 ^ 1024 then .int (roundToDouble n) else .other "Infinity" := by
      have hneg : ¬(n : ℤ) < 0 := by omega
      simp only [toNumber, Int.natAbs_natCast, if_neg hneg]
    rw [or_iff_right (by omega), hnumber]
    rcases lt_or_ge (roundToDouble n) (10 ^ 21) with hround | hround
    · have hlt := roundToDouble_lt_iff.mp hround
      have hleast : 10 ^ 15 ≤ roundToDouble n := by
        calc 10 ^ 15 = roundToDouble (10 ^ 15) := (roundToDouble_of_lt (by norm_num)).symm
          _ ≤ roundToDouble n := roundToDouble_mono (by omega)
      have hfinite : roundToDouble n < 2 ^ 1024 := by
        calc roundToDouble n < 10 ^ 21 := hround
          _ ≤ 2 ^ 70 := by norm_num
          _ < 2 ^ 1024 := by gcongr <;> simp
      obtain ⟨w, hw, hlong⟩ :=
        exists_literal_of_double (roundToDouble_idem n) hleast hround
      rw [if_pos hfinite]
      constructor
      · intro h
        exact absurd (h w hw) (not_le.mpr hlong)
      · intro h
        omega
    · have hge := not_lt.mp fun h => not_lt.mpr hround (roundToDouble_lt_iff.mpr h)
      refine iff_of_true ?_ (by omega)
      intro w hw
      split at hw
      · rw [Number.literal, Int.natAbs_natCast, if_neg (by omega)] at hw
        cases hw
      · cases hw

end literals

/-! ## What is posted -/

section broadcast

variable {create : Option String → TronWeb} {utils : TronUtils} {tx : Transaction}
  {text : Document}

/-- The literals of the amounts of an accepted transaction. -/
theorem forall_amounts_iff {ownerAddress : String} {contract : TronContract}
    (h : buildUnsignedTx tx ownerAddress = .ok contract) :
    (∀ x ∈ contract.amounts, ∀ v, x.literal = some (.integer v) → literalLength v ≤ 15) ↔
      ShortAmount tx := by
  cases tx with
  | delegate base isMaxAmount validator resource =>
      obtain ⟨hmin, hmax, r, rfl⟩ := buildUnsignedTx_delegate_eq_ok h
      rw [sunPerTrx] at hmin
      rw [maxSafeInteger] at hmax
      rw [TronContract.amounts, List.forall_mem_singleton]
      exact literalLength_of_safe (by omega) (by omega)
  | undelegate base isMaxAmount validator resource stakeAccount =>
      obtain ⟨hmin, hmax, r, rfl⟩ := buildUnsignedTx_undelegate_eq_ok h
      rw [maxSafeInteger] at hmax
      rw [TronContract.amounts, List.forall_mem_singleton]
      exact literalLength_of_safe (by omega) (by omega)
  | vote base validator =>
      obtain ⟨hpos, hdvd, rfl⟩ := buildUnsignedTx_vote.mp h
      have hcount : 0 < base.amount / sunPerTrx :=
        Int.ediv_pos_of_pos_of_dvd hpos (by norm_num [sunPerTrx]) hdvd
      simp only [TronContract.amounts, List.map_singleton, List.forall_mem_singleton]
      exact literalLength_toNumber hcount
  | claimDelegate base validator index stakeAccount =>
      obtain rfl := Except.ok.inj h
      exact iff_of_true (fun x hx => absurd hx List.not_mem_nil) trivial
  | claimRewards base validator =>
      obtain rfl := Except.ok.inj h
      exact iff_of_true (fun x hx => absurd hx List.not_mem_nil) trivial
  | redelegate base isMaxAmount fromValidator toValidator => cases h

/-- When all literals of a signed text are short. -/
theorem Signed.shortAmounts_iff (h : Signed create utils tx text)
    (hdoc : ∀ key, (create key).Documented) :
    (∀ literal ∈ text.numbers, literal.isLong = false) ↔ ShortAmount tx := by
  obtain ⟨-, -, owner, contract, hcontract, hliterals⟩ := h.forall_literal hdoc
  exact hliterals.trans (forall_amounts_iff hcontract)

/-- What a signed text with a long literal comes to: it is read, and cannot be written again. -/
theorem Signed.broadcast_of_long (h : Signed create utils tx text)
    (hdoc : ∀ key, (create key).Documented) {jsonBig : JsonBig} (hjson : jsonBig.Documented)
    (hlong : ¬∀ literal ∈ text.numbers, literal.isLong = false) (decodeUtf8 : List ℕ → String)
    (send : PostRequest → Except RequestError TronBroadcastResponse) (rpcUrl : String) :
    broadcast decodeUtf8 jsonBig send rpcUrl (some text) =
      { posted := []
        result := .error
          (.api "An unexpected error occurred: Do not know how to serialize a BigInt") } := by
  obtain ⟨hkeys, hliterals, -⟩ := h.forall_literal hdoc
  have hread := fun literal hmem => (hliterals literal hmem).1
  push Not at hlong
  obtain ⟨literal, hmem, hliteral⟩ := hlong
  exact broadcast_of_error decodeUtf8 send rpcUrl (hjson.parse_of_readable hkeys hread)
    (hjson.stringify_valueOf_of_long hread
      ⟨literal, hmem, Bool.eq_true_of_not_eq_false hliteral⟩)

/-- **When the signed text is posted**: when the amount is written with 15 digits at most, or with
an exponent. -/
theorem broadcast_posts_signed_iff (hdoc : ∀ key, (create key).Documented) {jsonBig : JsonBig}
    (hjson : jsonBig.Documented) (h : Signed create utils tx text)
    (decodeUtf8 : List ℕ → String)
    (send : PostRequest → Except RequestError TronBroadcastResponse) (rpcUrl : String) :
    (broadcast decodeUtf8 jsonBig send rpcUrl (some text)).posted.map PostRequest.body = [text] ↔
      ShortAmount tx := by
  rw [← h.shortAmounts_iff hdoc]
  constructor
  · intro hposted
    by_contra hlong
    rw [h.broadcast_of_long hdoc hjson hlong] at hposted
    cases hposted
  · intro hshort
    obtain ⟨hkeys, hliterals, -⟩ := h.forall_literal hdoc
    have hread := fun literal hmem => (hliterals literal hmem).1
    rw [broadcast_posted decodeUtf8 send rpcUrl (hjson.parse_of_readable hkeys hread)
      (hjson.stringify_valueOf (fun literal hmem => (hliterals literal hmem).2) hread hshort)]
    rfl

end broadcast

/-! ## A client of TronWeb -/

/-- The value of a contract's parameter, as TronWeb builds it. -/
def contractValue : TronContract → List (String × JsValue)
  | .freezeBalanceV2 amount resource ownerAddress =>
      [("frozen_balance", .number (.number amount)), ("resource", .string resource.toText),
        ("owner_address", .string ownerAddress)]
  | .unfreezeBalanceV2 amount resource ownerAddress =>
      [("unfreeze_balance", .number (.number amount)), ("resource", .string resource.toText),
        ("owner_address", .string ownerAddress)]
  | .vote votes ownerAddress =>
      [("votes", .array (votes.map fun e =>
          .object [("vote_address", .string e.1), ("vote_count", .number (.number e.2))])),
        ("owner_address", .string ownerAddress)]
  | .withdrawExpireUnfreeze ownerAddress | .withdrawBlockRewards ownerAddress =>
      [("owner_address", .string ownerAddress)]

/-- A transaction with one contract, as TronWeb builds it. -/
def contractTransaction (contract : TronContract) : JsValue :=
  .object [
    ("visible", .bool false),
    ("txID", .string "9f62a65d0616c749643c4e2620b7877efd0f04dd5b2b4cd14004570d39858d7e"),
    ("raw_data", .object [
      ("contract", .array [.object [
        ("parameter", .object [("value", .object (contractValue contract))])]]),
      ("expiration", .number (.number (.int 1700000060000))),
      ("timestamp", .number (.number (.int 1700000000000)))]),
    ("raw_data_hex", .string "0a02")]

/-- A client with a key of its own, whose signature is one string. It builds what is asked for in
numbers that are written with their digits. -/
def vectorTronWeb : TronWeb where
  defaultAddress := some "TJRabPrwbZy45sbavfcjinPJC18kjpRTv8"
  transactionBuilder := fun contract =>
    if ∀ x ∈ contract.amounts, IsPlain x then .ok (contractTransaction contract)
    else .error (.foreign "no vector")
  sign := fun tx => .ok (tx.set "signature" (.array [.string "ab01"]))

/-- The numbers of a transaction are the amounts and the two times. -/
theorem numbers_contractTransaction (contract : TronContract) :
    (contractTransaction contract).numbers =
      contract.amounts.map .number ++
        [.number (.int 1700000060000), .number (.int 1700000000000)] := by
  cases contract with
  | vote votes ownerAddress =>
      simp only [contractTransaction, contractValue, TronContract.amounts, Json.numbers_object,
        Json.numbers_array, Json.numbers_number, Json.numbers_string, Json.numbers_bool,
        List.flatMap_cons, List.flatMap_nil, List.flatMap_map, List.map_map, List.nil_append,
        List.append_nil, List.cons_append]
      rw [List.map_eq_flatMap]
      rfl
  | _ => rfl

/-- The keys of the objects a transaction is built of. -/
def contractKeys : List (List String) :=
  [["visible", "txID", "raw_data", "raw_data_hex"], ["contract", "expiration", "timestamp"],
    ["parameter"], ["value"], ["frozen_balance", "resource", "owner_address"],
    ["unfreeze_balance", "resource", "owner_address"], ["votes", "owner_address"],
    ["vote_address", "vote_count"], ["owner_address"]]

/-- The keys of a transaction are ordinary. -/
theorem ordinaryKeys_contractTransaction (contract : TronContract) :
    OrdinaryKeys (contractTransaction contract) := by
  have hordinary : ∀ keys ∈ contractKeys, keys.Nodup ∧ ∀ key ∈ keys, OrdinaryKey key := by
    decide +kernel
  have hkeys : ∀ keys ∈ (contractTransaction contract).objectKeys, keys ∈ contractKeys := by
    cases contract <;> simp +contextual [contractTransaction, contractValue, contractKeys]
  exact fun keys hmem => hordinary keys (hkeys keys hmem)

/-- What the client has built. -/
theorem transactionBuilder_eq_ok {contract : TronContract} {tx : JsValue}
    (h : vectorTronWeb.transactionBuilder contract = .ok tx) :
    (∀ x ∈ contract.amounts, IsPlain x) ∧ tx = contractTransaction contract := by
  simp only [vectorTronWeb] at h
  split at h
  · next hplain => exact ⟨hplain, (Except.ok.inj h).symm⟩
  · cases h

/-- The client does what is relied on. -/
theorem vectorTronWeb_documented : vectorTronWeb.Documented where
  unsigned := by
    rintro contract tx h
    obtain ⟨-, rfl⟩ := transactionBuilder_eq_ok h
    rfl
  keys := by
    rintro contract tx h
    obtain ⟨-, rfl⟩ := transactionBuilder_eq_ok h
    exact ordinaryKeys_contractTransaction contract
  amounts := by
    rintro contract tx h x hx -
    obtain ⟨-, rfl⟩ := transactionBuilder_eq_ok h
    rw [numbers_contractTransaction]
    exact List.mem_append_left _ (List.mem_map_of_mem hx)
  others := by
    rintro contract tx h n hn
    obtain ⟨hplain, rfl⟩ := transactionBuilder_eq_ok h
    rw [numbers_contractTransaction] at hn
    rcases List.mem_append.mp hn with hn | hn
    · obtain ⟨x, hx, rfl⟩ := List.mem_map.mp hn
      exact Or.inl ⟨x, hx, hplain x hx, rfl⟩
    · rcases List.mem_pair.mp hn with rfl | rfl
      · exact Or.inr ⟨1700000060000, by norm_num, by norm_num, rfl⟩
      · exact Or.inr ⟨1700000000000, by norm_num, by norm_num, rfl⟩
  sign := by
    rintro tx signed hnew h
    obtain rfl := Except.ok.inj h
    exact ⟨["ab01"], rfl⟩

/-- A freeze for bandwidth. -/
def vectorDelegate (amount : ℤ) : Transaction :=
  .delegate
    { chain := { id := "tron-mainnet", chainId := none }
      amount
      account := some "TJRabPrwbZy45sbavfcjinPJC18kjpRTv8" }
    false none (some "BANDWIDTH")

/-- A freeze is signed with a key. -/
def vectorSigning (amount : ℤ) : SigningWithPrivateKey :=
  { transaction := vectorDelegate amount
    fee := .resourceFee 350 0 0
    nonce := .int 0
    privateKey := "0000000000000000000000000000000000000000000000000000000000000001" }

/-- No function of TronWeb beside those of the client is needed to sign with a key. -/
def vectorUtils : TronUtils where
  isAddress := fun _ => true
  sha256 := fun _ => ""
  txCheck := fun _ => .ok true
  ecRecover := fun _ _ => .ok ""

/-- What is signed with that key. -/
theorem exists_signed (amount : ℤ)
    (h : (sign (fun _ => vectorTronWeb) (vectorSigning amount)).toBool = true) :
    ∃ text, Signed (fun _ => vectorTronWeb) vectorUtils (vectorDelegate amount) text := by
  cases hsign : sign (fun _ => vectorTronWeb) (vectorSigning amount) with
  | error error =>
      rw [hsign] at h
      cases h
  | ok text => exact ⟨text, .sign rfl hsign⟩

/-- A freeze of 1000 TRX is posted as it was signed. -/
theorem broadcast_posts_signed_thousandTrx :
    ∃ text, Signed (fun _ => vectorTronWeb) vectorUtils (vectorDelegate 1000000000) text ∧
      (broadcast (fun _ => "") vectorJsonBig (fun _ => .error .request) "https://api.trongrid.io"
        (some text)).posted.map PostRequest.body = [text] := by
  obtain ⟨text, hsigned⟩ := exists_signed 1000000000 (by decide +kernel)
  refine ⟨text, hsigned, ?_⟩
  exact (broadcast_posts_signed_iff (fun _ => vectorTronWeb_documented) vectorJsonBig_documented
    hsigned _ _ _).mpr (by norm_num [ShortAmount, vectorDelegate])

/-- A freeze of a billion TRX is signed and not posted: its amount is read as a `bigint`. -/
theorem broadcast_largeFreeze :
    vectorTronWeb.Documented ∧ vectorJsonBig.Documented ∧ ∃ text,
      Signed (fun _ => vectorTronWeb) vectorUtils (vectorDelegate (10 ^ 15)) text ∧
      broadcast (fun _ => "") vectorJsonBig (fun _ => .error .request) "https://api.trongrid.io"
          (some text) =
        { posted := []
          result := .error
            (.api "An unexpected error occurred: Do not know how to serialize a BigInt") } ∧
      ¬(broadcast (fun _ => "") vectorJsonBig (fun _ => .error .request)
        "https://api.trongrid.io" (some text)).posted.map PostRequest.body = [text] := by
  obtain ⟨text, hsigned⟩ := exists_signed (10 ^ 15) (by decide +kernel)
  have hlong : ¬∀ literal ∈ text.numbers, literal.isLong = false := by
    rw [hsigned.shortAmounts_iff fun _ => vectorTronWeb_documented]
    norm_num [ShortAmount, vectorDelegate]
  have hresult := hsigned.broadcast_of_long (fun _ => vectorTronWeb_documented)
    vectorJsonBig_documented hlong (fun _ => "") (fun _ => .error .request)
    "https://api.trongrid.io"
  refine ⟨vectorTronWeb_documented, vectorJsonBig_documented, text, hsigned, hresult, ?_⟩
  rw [hresult]
  intro hposted
  cases hposted

end GuardianStake.Tron
