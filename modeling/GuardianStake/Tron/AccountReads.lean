import GuardianStake.Sdk.Doubles
import GuardianStake.Tron.BalanceService
import GuardianStake.Tron.RpcClient

/-!
# Reading accounts from the FullNode

The reads of `rpc/tron-rpc-client.ts`. The node writes 64-bit integers, as integer literals, and
leaves out the fields of an entry that have their default; `json-bigint` reads a literal as a
`number` or a `bigint` by its length, and the client maps either. Other fields of a text matter
where `json-bigint` would refuse it: a repeated key, or a long literal with a point or an exponent.

* `Renders` — a text the node may write for an account.
* `readAccount_of_renders` — **every such text is read as that account**, to the last SUN.
* `getBalances_of_renders` — **the balances of such texts**: an unfreezing amount is claimable iff
  the node has written a positive time for it that has passed.
-/

namespace GuardianStake.Tron

open Sdk Found

/-! ## The code -/

/-- `value.key`; null has no properties. -/
def property (value : JsValue) (key : String) : Result (Option JsValue) :=
  match value with
  | .null => .error (.foreign s!"Cannot read properties of null (reading '{key}')")
  | value => .ok (value.get key)

/-- `(value.key ?? [])`, where an array method is called on it. -/
def arrayProperty (value : JsValue) (key method : String) : Result (List JsValue) := do
  match ← property value key with
  | none | some .null => return []
  | some (.array items) => return items
  | some _ => throw (.foreign s!"(raw.{key} ?? []).{method} is not a function")

/-- `BigInt(Math.trunc(value))`. A number that is not integral is printed with a point, or with a
negative exponent. -/
def bigIntOfTrunc : Number → Result ℤ
  | .int n => .ok n
  | .other text =>
      let (negative, unsigned) :=
        match text.toList with
        | '-' :: cs => (true, cs)
        | cs => (false, cs)
      if 'e' ∈ unsigned then .ok 0
      else
        match parseDigits 10 (unsigned.takeWhile (· ≠ '.')) with
        | some n => .ok (if negative then -n else n)
        | none =>
            .error (.foreign
              s!"The number {text} cannot be converted to a BigInt because it is not an integer")

example : bigIntOfTrunc (.other "-12.75") = .ok (-12) ∧
    bigIntOfTrunc (.other "1.5e-7") = .ok 0 := by
  decide

/-- Source: `rpc/tron-rpc-client.ts`, `num`. -/
def num : Option JsValue → Number
  | some (.number (.number x)) => x
  | some (.number (.bigint n)) => toNumber n
  | _ => .int 0

/-- Source: `rpc/tron-rpc-client.ts`, `big`. -/
def big : Option JsValue → Result ℤ
  | some (.number (.bigint n)) => .ok n
  | some (.number (.number x)) => bigIntOfTrunc x
  | _ => .ok 0

/-- A `number` that is used as an integer. The node writes no fractions. -/
def integral : Number → Result ℤ
  | .int n => .ok n
  | .other text => .error (.foreign s!"{text} is not an integer")

/-- `value === text`. -/
def isText (value : Option JsValue) (text : String) : Bool :=
  match value with
  | some (.string s) => s = text
  | _ => false

/-- `type === "ENERGY" ? "ENERGY" : "BANDWIDTH"`. -/
def resourceOf (type : Option JsValue) : TronResource :=
  if isText type "ENERGY" then .energy else .bandwidth

/-- An entry of `frozenV2`, unless it is filtered out. -/
def readFrozen (f : JsValue) : Result (Option Frozen) := do
  let type ← property f "type"
  if isText type "TRON_POWER" then return none
  let amount ← big (← property f "amount")
  if 0 < amount then return some { resource := resourceOf type, amount }
  return none

/-- A time that is there and positive, else one that never comes. -/
def readExpireTime (rawExpiry : Option JsValue) : Result ℤ :=
  if (num rawExpiry).nonpos then .ok maxSafeInteger else integral (num rawExpiry)

/-- An entry of `unfrozenV2`. -/
def readUnfreezing (u : JsValue) : Result Unfreezing := do
  let expireTime ← readExpireTime (← property u "unfreeze_expire_time")
  let type ← property u "type"
  let amount ← big (← property u "unfreeze_amount")
  return { resource := resourceOf type, amount, expireTime }

/-- An entry of `votes`. -/
def readVote (v : JsValue) : Result Vote := do
  let address ← property v "vote_address"
  let votes ← big (← property v "vote_count")
  return { srAddress := (match address with | some (.string s) => s | _ => ""), votes }

/-- Source: `rpc/tron-rpc-client.ts`, `getAccount`, from the response on. -/
def readAccount (raw : JsValue) : Result TronAccount := do
  let frozen ← (← arrayProperty raw "frozenV2" "filter").mapM readFrozen
  let balance ← big (← property raw "balance")
  let unfreezing ← (← arrayProperty raw "unfrozenV2" "map").mapM readUnfreezing
  let votes ← (← arrayProperty raw "votes" "map").mapM readVote
  return { balance, frozen := frozen.reduceOption, unfreezing, votes }

/-- Source: `rpc/tron-rpc-client.ts`, `getAccountResources`, from the response on. -/
def readAccountResources (raw : JsValue) : Result TronAccountResources := do
  let freeNetLimit ← big (← property raw "freeNetLimit")
  let freeNetUsed ← big (← property raw "freeNetUsed")
  let netLimit ← big (← property raw "NetLimit")
  let netUsed ← big (← property raw "NetUsed")
  return { freeNetLimit, freeNetUsed, netLimit, netUsed }

/-- Source: `rpc/tron-rpc-client.ts`, `getReward`, from the response on. -/
def readReward (raw : JsValue) : Result ℤ := do
  big (← property raw "reward")

/-- Source: `rpc/tron-rpc-client.ts`, `getChainParameters`, from the response on, and the parameter
`getTransactionFee`; of two parameters with one key the later one counts. -/
def readTransactionFee (raw : JsValue) : Result (Option ℤ) := do
  let parameters ← (← arrayProperty raw "chainParameter" "map").mapM fun p => do
    let key ← property p "key"
    let value ← property p "value"
    return (key, num value)
  match parameters.reverse.find? fun p => isText p.1 "getTransactionFee" with
  | none => return none
  | some p => return some (← integral p.2)

section client

variable (jsonBig : JsonBig) (send : PostRequest → Except RequestError (Option Document))
  (rpcUrl : String)

/-- Source: `rpc/tron-rpc-client.ts`, `parseBigIntResponse`; `none` is an empty body. -/
def parseBigIntResponse : Option Document → Result JsValue
  | none => .ok (.string "")
  | some text => jsonBig.parse text

/-- A read: a POST of the data, and what the client makes of the response. -/
def post {α : Type} (path : String) (data : JsValue) (read : JsValue → Result α) : Result α := do
  let raw ← (fetchOrError send (parseBigIntResponse jsonBig) s!"{rpcUrl}{path}" data).result
  read raw

/-- `{ address, visible: true }`. -/
def addressData (address : String) : JsValue :=
  .object [("address", .string address), ("visible", .bool true)]

/-- Source: `rpc/tron-rpc-client.ts`, `createTronRpcClient`. -/
def createTronRpcClient : TronRpcClient where
  getAccount := fun address =>
    post jsonBig send rpcUrl "/wallet/getaccount" (addressData address) readAccount
  getReward := fun address =>
    post jsonBig send rpcUrl "/wallet/getReward" (addressData address) readReward
  -- posted without data; `null` stands for the empty body
  getTransactionFee :=
    post jsonBig send rpcUrl "/wallet/getchainparameters" .null readTransactionFee
  getAccountResources := fun address =>
    post jsonBig send rpcUrl "/wallet/getaccountresource" (addressData address)
      readAccountResources

end client

/-! ## What the node writes -/

/-- What Tron Power is staked for. -/
inductive PowerType
  | bandwidth
  | energy
  | tronPower
  deriving DecidableEq, Repr

/-- A type as the node spells it. -/
def PowerType.toText : PowerType → String
  | .bandwidth => "BANDWIDTH"
  | .energy => "ENERGY"
  | .tronPower => "TRON_POWER"

/-- An entry of what is frozen. -/
structure FrozenEntry where
  type : PowerType
  amount : ℤ
  deriving DecidableEq

/-- An entry of what is unfreezing. -/
structure UnfrozenEntry where
  type : PowerType
  amount : ℤ
  expireTime : ℤ
  deriving DecidableEq

/-- An account of the chain. -/
structure NodeAccount where
  balance : ℤ
  frozenV2 : List FrozenEntry
  unfrozenV2 : List UnfrozenEntry
  votes : List Vote
  deriving DecidableEq

/-- A 64-bit number: written as an integer, or left out if it is zero. -/
def HasInt (text : Document) (key : String) (value : ℤ) : Prop :=
  (-2 ^ 63 ≤ value ∧ value < 2 ^ 63) ∧
    (text.get key = some (.number (.integer value)) ∨ value = 0 ∧ text.get key = none)

/-- A type: written by its name, or left out if it is the first. -/
def HasType (text : Document) (key : String) (type : PowerType) : Prop :=
  text.get key = some (.string type.toText) ∨ type = .bandwidth ∧ text.get key = none

/-- A list: written entry by entry, or left out if it is empty. -/
def HasList {α : Type} (entry : Document → α → Prop) (text : Document) (key : String)
    (values : List α) : Prop :=
  (∃ items, text.get key = some (.array items) ∧ List.Forall₂ entry items values) ∨
    values = [] ∧ text.get key = none

/-- An object with the fields of an entry of `frozenV2`. -/
structure RendersFrozen (text : Document) (f : FrozenEntry) : Prop where
  object : ∃ fields, text = .object fields
  type : HasType text "type" f.type
  amount : HasInt text "amount" f.amount

/-- An object with the fields of an entry of `unfrozenV2`. -/
structure RendersUnfrozen (text : Document) (u : UnfrozenEntry) : Prop where
  object : ∃ fields, text = .object fields
  type : HasType text "type" u.type
  amount : HasInt text "unfreeze_amount" u.amount
  expireTime : HasInt text "unfreeze_expire_time" u.expireTime

/-- An object with the fields of an entry of `votes`. -/
structure RendersVote (text : Document) (v : Vote) : Prop where
  object : ∃ fields, text = .object fields
  address : text.get "vote_address" = some (.string v.srAddress)
  votes : HasInt text "vote_count" v.votes

/-- An object that `json-bigint` accepts: its keys are ordinary, its literals can be read. -/
structure AcceptedText (text : Document) : Prop where
  object : ∃ fields, text = .object fields
  ordinary : OrdinaryKeys text
  readable : ∀ literal ∈ text.numbers, literal.Readable

/-- A text the node may write for an account; it may have other fields, in any order. -/
structure Renders (text : Document) (account : NodeAccount) : Prop extends AcceptedText text where
  balance : HasInt text "balance" account.balance
  frozenV2 : HasList RendersFrozen text "frozenV2" account.frozenV2
  unfrozenV2 : HasList RendersUnfrozen text "unfrozenV2" account.unfrozenV2
  votes : HasList RendersVote text "votes" account.votes

/-- The resource a type is read as. -/
def PowerType.resource : PowerType → TronResource
  | .energy => .energy
  | _ => .bandwidth

/-- An entry of `frozenV2` as it is read. -/
def FrozenEntry.read (f : FrozenEntry) : Option Frozen :=
  if f.type ≠ .tronPower ∧ 0 < f.amount then
    some { resource := f.type.resource, amount := f.amount }
  else none

/-- An entry of `unfrozenV2` as it is read: without a time it does not expire. -/
def UnfrozenEntry.read (u : UnfrozenEntry) : Unfreezing where
  resource := u.type.resource
  amount := u.amount
  expireTime := if 0 < u.expireTime then roundToDouble u.expireTime.toNat else maxSafeInteger

/-- An account as it is read. -/
def NodeAccount.read (account : NodeAccount) : TronAccount where
  balance := account.balance
  frozen := account.frozenV2.filterMap FrozenEntry.read
  unfreezing := account.unfrozenV2.map UnfrozenEntry.read
  votes := account.votes

/-! ## What is read -/

section read

variable {jsonBig : JsonBig} {text : Document} {key method : String} {value : ℤ}

/-- What is read of a field. -/
theorem get_valueOf (text : Document) (key : String) :
    (jsonBig.valueOf text).get key = (text.get key).map jsonBig.valueOf := by
  apply Json.get_bind
  intro literal
  cases jsonBig.number literal <;> rfl

/-- The properties of an object. -/
theorem property_of_object (h : ∃ fields, text = .object fields) (key : String) :
    property (jsonBig.valueOf text) key = .ok ((text.get key).map jsonBig.valueOf) := by
  rw [← get_valueOf]
  obtain ⟨fields, rfl⟩ := h
  rw [JsonBig.valueOf, Json.bind_object]
  rfl

/-- A short literal is converted exactly. -/
theorem toNumber_of_short (h : ¬15 < literalLength value) : toNumber value = .int value := by
  have hlt := natAbs_lt_of_literalLength_le (not_lt.mp h)
  apply toNumber_of_safe
  rw [Int.abs_eq_natAbs, maxSafeInteger]
  omega

/-- A 64-bit literal is read as a `bigint` if it is long. -/
theorem valueOf_integer (hjson : jsonBig.Documented) (h : -2 ^ 63 ≤ value ∧ value < 2 ^ 63) :
    jsonBig.valueOf (.number (.integer value)) =
      .number (if 15 < literalLength value then .bigint value else .number (.int value)) := by
  have hread : value.natAbs < 2 ^ 1023 := by
    calc value.natAbs < 2 ^ 64 := by omega
      _ < 2 ^ 1023 := by gcongr <;> simp
  simp only [JsonBig.valueOf, Json.bind]
  split_ifs with hlong
  · rw [hjson.long hlong hread]
  · rw [hjson.short (not_lt.mp hlong)]

/-- **A number is read exactly as a `bigint`.** -/
theorem big_of_hasInt (hjson : jsonBig.Documented) (h : HasInt text key value) :
    big ((text.get key).map jsonBig.valueOf) = .ok value := by
  obtain ⟨hbounds, hwritten | ⟨rfl, hnone⟩⟩ := h
  · rw [hwritten, Option.map_some, valueOf_integer hjson hbounds]
    split_ifs <;> rfl
  · rw [hnone]
    rfl

/-- A number is read as the nearest `number`. -/
theorem num_of_hasInt (hjson : jsonBig.Documented) (h : HasInt text key value) :
    num ((text.get key).map jsonBig.valueOf) = toNumber value := by
  obtain ⟨hbounds, hwritten | ⟨rfl, hnone⟩⟩ := h
  · rw [hwritten, Option.map_some, valueOf_integer hjson hbounds]
    split_ifs with hlong
    · rfl
    · exact (toNumber_of_short hlong).symm
  · rw [hnone, toNumber_of_safe (by decide)]
    rfl

/-- A type is recognised by its name, unless it is the first. -/
theorem isText_of_hasType {type type' : PowerType} (h : HasType text key type)
    (hne : type' ≠ .bandwidth) :
    isText ((text.get key).map jsonBig.valueOf) type'.toText = decide (type = type') := by
  rcases h with h | ⟨rfl, h⟩
  · rw [h]
    show decide (type.toText = type'.toText) = _
    cases type <;> cases type' <;> rfl
  · rw [h]
    exact (decide_eq_false hne.symm).symm

/-- The resource of a type. -/
theorem resourceOf_of_hasType {type : PowerType} (h : HasType text key type) :
    resourceOf ((text.get key).map jsonBig.valueOf) = type.resource := by
  rw [resourceOf, show "ENERGY" = PowerType.energy.toText from rfl,
    isText_of_hasType h (by decide)]
  cases type <;> rfl

/-- The entries of a list. -/
theorem arrayProperty_of_hasList (jsonBig : JsonBig) {α : Type} {entry : Document → α → Prop}
    (hobject : ∃ fields, text = .object fields) {values : List α}
    (h : HasList entry text key values) (method : String) :
    ∃ items, arrayProperty (jsonBig.valueOf text) key method = .ok (items.map jsonBig.valueOf) ∧
      List.Forall₂ entry items values := by
  unfold arrayProperty
  rw [property_of_object hobject]
  rcases h with ⟨items, hitems, hall⟩ | ⟨rfl, hnone⟩
  · refine ⟨items, ?_, hall⟩
    rw [hitems, Option.map_some, JsonBig.valueOf, Json.bind_array]
    rfl
  · refine ⟨[], ?_, .nil⟩
    rw [hnone]
    rfl

/-- **A list is read entry by entry.** -/
theorem mapM_of_forall₂ {α β : Type} {entry : Document → α → Prop} {f : JsValue → Result β}
    {g : α → β} {items : List Document} {values : List α} (h : List.Forall₂ entry items values)
    (hentry : ∀ item a, entry item a → f (jsonBig.valueOf item) = .ok (g a)) :
    (items.map jsonBig.valueOf).mapM f = .ok (values.map g) := by
  rw [mapM_eq_ok, List.forall₂_map_left_iff, List.forall₂_map_right_iff]
  exact h.imp hentry

/-- An entry of `frozenV2` is read as such, or filtered out. -/
theorem readFrozen_of_renders (hjson : jsonBig.Documented) {f : FrozenEntry}
    (h : RendersFrozen text f) :
    readFrozen (jsonBig.valueOf text) = .ok f.read := by
  unfold readFrozen
  rw [property_of_object h.object, property_of_object h.object]
  show (if isText _ PowerType.tronPower.toText = true then _ else _) = _
  rw [isText_of_hasType h.type (by decide)]
  show (if decide (f.type = .tronPower) = true then _ else big _ >>= _) = _
  rw [big_of_hasInt hjson h.amount]
  by_cases htype : f.type = .tronPower
  · rw [if_pos (decide_eq_true htype), FrozenEntry.read, if_neg (by simp [htype])]
    rfl
  · rw [if_neg (by simp [htype])]
    show (if 0 < f.amount then _ else _) = _
    rw [resourceOf_of_hasType h.type, FrozenEntry.read]
    by_cases hpos : 0 < f.amount
    · rw [if_pos hpos, if_pos ⟨htype, hpos⟩]
      rfl
    · rw [if_neg hpos, if_neg (by simp [hpos])]
      rfl

/-- A positive 64-bit number is converted to the nearest double. -/
theorem toNumber_of_pos (hpos : 0 < value) (hlt : value < 2 ^ 63) :
    toNumber value = .int (roundToDouble value.toNat) := by
  have hround : roundToDouble value.natAbs < 2 ^ 1024 := by
    calc roundToDouble value.natAbs ≤ roundToDouble (2 ^ 63) := roundToDouble_mono (by omega)
      _ = 2 ^ 63 := by decide +kernel
      _ < 2 ^ 1024 := by gcongr <;> simp
  have hneg : ¬value < 0 := by omega
  simp only [toNumber, if_pos hround, if_neg hneg]
  congr 3
  omega

/-- The time of an entry: none, for what is not a positive one. -/
theorem readExpireTime_of_hasInt (hjson : jsonBig.Documented) {u : UnfrozenEntry}
    (h : HasInt text key u.expireTime) :
    readExpireTime ((text.get key).map jsonBig.valueOf) = .ok u.read.expireTime := by
  rw [readExpireTime, num_of_hasInt hjson h, nonpos_toNumber, UnfrozenEntry.read]
  by_cases hpos : 0 < u.expireTime
  · rw [if_neg (by simpa using hpos), toNumber_of_pos hpos h.1.2, if_pos hpos]
    rfl
  · rw [if_pos (by simpa using hpos), if_neg hpos]

/-- **An entry of `unfrozenV2` is read as such.** -/
theorem readUnfreezing_of_renders (hjson : jsonBig.Documented) {u : UnfrozenEntry}
    (h : RendersUnfrozen text u) :
    readUnfreezing (jsonBig.valueOf text) = .ok u.read := by
  simp only [readUnfreezing, property_of_object h.object]
  show readExpireTime _ >>= _ = _
  rw [readExpireTime_of_hasInt hjson h.expireTime]
  show big _ >>= _ = _
  rw [big_of_hasInt hjson h.amount, resourceOf_of_hasType h.type]
  rfl

/-- An entry of `votes` is read as such. -/
theorem readVote_of_renders (hjson : jsonBig.Documented) {v : Vote} (h : RendersVote text v) :
    readVote (jsonBig.valueOf text) = .ok v := by
  simp only [readVote, property_of_object h.object]
  show big _ >>= _ = _
  rw [big_of_hasInt hjson h.votes, h.address]
  rfl

/-- What is made of the value of a text for an account. -/
theorem readAccount_valueOf (hjson : jsonBig.Documented) {account : NodeAccount}
    (h : Renders text account) : readAccount (jsonBig.valueOf text) = .ok account.read := by
  obtain ⟨frozen, hfrozen, hallFrozen⟩ :=
    arrayProperty_of_hasList jsonBig h.object h.frozenV2 "filter"
  obtain ⟨unfrozen, hunfrozen, hallUnfrozen⟩ :=
    arrayProperty_of_hasList jsonBig h.object h.unfrozenV2 "map"
  obtain ⟨votes, hvotes, hallVotes⟩ :=
    arrayProperty_of_hasList jsonBig h.object h.votes "map"
  simp only [readAccount, hfrozen, hunfrozen, hvotes, property_of_object h.object]
  show List.mapM readFrozen _ >>= _ = _
  rw [mapM_of_forall₂ hallFrozen fun _ _ => readFrozen_of_renders hjson]
  show big _ >>= _ = _
  rw [big_of_hasInt hjson h.balance]
  show List.mapM readUnfreezing _ >>= _ = _
  rw [mapM_of_forall₂ hallUnfrozen fun _ _ => readUnfreezing_of_renders hjson]
  show List.mapM readVote _ >>= _ = _
  rw [mapM_of_forall₂ (g := id) hallVotes fun _ _ => readVote_of_renders hjson]
  simp only [NodeAccount.read, List.reduceOption, List.filterMap_map, List.map_id]
  rfl

/-- **Every text for an account is read as that account.** -/
theorem readAccount_of_renders (hjson : jsonBig.Documented) {account : NodeAccount}
    (h : Renders text account) :
    (do readAccount (← jsonBig.parse text)) = .ok account.read := by
  rw [hjson.parse_of_readable h.ordinary h.readable]
  exact readAccount_valueOf hjson h

end read

/-! ## The balances of what was written -/

/-- What is frozen for bandwidth or energy. -/
def NodeAccount.staked (account : NodeAccount) : ℤ :=
  ((account.frozenV2.filter fun f => f.type ≠ .tronPower ∧ 0 < f.amount).map
    FrozenEntry.amount).sum

/-- The node has written a positive time for the entry, and it has passed. -/
def UnfrozenEntry.Matured (now : ℤ) (u : UnfrozenEntry) : Prop :=
  0 < u.expireTime ∧ u.expireTime ≤ now

instance (now : ℤ) (u : UnfrozenEntry) : Decidable (u.Matured now) :=
  inferInstanceAs (Decidable (_ ∧ _))

/-- The request for an address. -/
def addressRequest (rpcUrl path address : String) : PostRequest where
  url := s!"{rpcUrl}{path}"
  body := .object [("address", .string address), ("visible", .bool true)]

section balances

variable {jsonBig : JsonBig} {send : PostRequest → Except RequestError (Option Document)}
  {rpcUrl path address : String} {text rewardText : Document} {account : NodeAccount}
  {now reward : ℤ}

/-- A read is what the client makes of the response to its request. -/
theorem post_eq (hjson : jsonBig.Documented) {α : Type} {read : JsValue → Result α}
    (haccepted : AcceptedText text)
    (hsend : send (addressRequest rpcUrl path address) = .ok (some text)) :
    post jsonBig send rpcUrl path (addressData address) read = read (jsonBig.valueOf text) := by
  have hbody : stringify (addressData address) =
      .ok (.object [("address", .string address), ("visible", .bool true)]) := rfl
  have hrequest : send { url := s!"{rpcUrl}{path}"
                         body := .object [("address", .string address), ("visible", .bool true)] } =
      .ok (some text) := hsend
  simp only [post, fetchOrError, hbody, hrequest, parseBigIntResponse,
    hjson.parse_of_readable haccepted.ordinary haccepted.readable]
  rfl

/-- The total of the code, on what is read. -/
theorem totalFrozen_read (account : NodeAccount) : account.read.totalFrozen = account.staked := by
  rw [TronAccount.totalFrozen, NodeAccount.read, NodeAccount.staked]
  induction account.frozenV2 with
  | nil => rfl
  | cons f rest ih =>
      by_cases h : f.type ≠ .tronPower ∧ 0 < f.amount
      · rw [List.filterMap_cons_some (by rw [FrozenEntry.read, if_pos h]),
          List.filter_cons_of_pos (by simpa using h)]
        simp only [List.map_cons, List.sum_cons, ih]
      · rw [List.filterMap_cons_none (by rw [FrozenEntry.read, if_neg h]),
          List.filter_cons_of_neg (by simpa using h)]
        exact ih

/-- **A time that is read has passed iff the one written has.** Doubles do not bring a time of the
far future near, and no time is as good as one that never comes. -/
theorem expireTime_read_le_iff (hnow : now < maxSafeInteger) (u : UnfrozenEntry) :
    u.read.expireTime ≤ now ↔ u.Matured now := by
  rw [maxSafeInteger] at hnow
  have hread : u.read.expireTime =
      if 0 < u.expireTime then (roundToDouble u.expireTime.toNat : ℤ) else maxSafeInteger := rfl
  rw [UnfrozenEntry.Matured, hread]
  by_cases hpos : 0 < u.expireTime
  · rw [if_pos hpos, and_iff_right hpos]
    rcases lt_or_ge u.expireTime.toNat (2 ^ 53) with hlt | hge
    · rw [roundToDouble_of_lt hlt, Int.toNat_of_nonneg hpos.le]
    · have hround : 2 ^ 53 ≤ roundToDouble u.expireTime.toNat := by
        calc 2 ^ 53 = roundToDouble (2 ^ 53) := by decide +kernel
          _ ≤ roundToDouble u.expireTime.toNat := roundToDouble_mono hge
      omega
  · rw [if_neg hpos, maxSafeInteger]
    omega

/-- **The balances of what the node has written**, to the last SUN: what unfreezes is claimable iff
a positive time was written for it that has passed. -/
theorem getBalances_of_renders (hjson : jsonBig.Documented) {isAddress : String → Bool}
    (hvalid : isAddress address = true)
    (hsend : send (addressRequest rpcUrl "/wallet/getaccount" address) = .ok (some text))
    (hrenders : Renders text account)
    (hreward : send (addressRequest rpcUrl "/wallet/getReward" address) = .ok (some rewardText))
    (haccepted : AcceptedText rewardText) (hvalue : HasInt rewardText "reward" reward)
    (hnow : now < maxSafeInteger) :
    getBalances isAddress (createTronRpcClient jsonBig send rpcUrl) now address = .ok
      [{ type := .available, amount := account.balance },
        { type := .staked, amount := account.staked },
        { type := .pending
          amount := ((account.unfrozenV2.filter fun u => ¬u.Matured now).map
            UnfrozenEntry.amount).sum },
        { type := .claimable
          amount := ((account.unfrozenV2.filter fun u => u.Matured now).map
            UnfrozenEntry.amount).sum },
        { type := .rewards, amount := reward }] := by
  have haccount : (createTronRpcClient jsonBig send rpcUrl).getAccount address = .ok account.read := by
    rw [← readAccount_valueOf hjson hrenders]
    exact post_eq hjson hrenders.toAcceptedText hsend
  have hrewards : (createTronRpcClient jsonBig send rpcUrl).getReward address = .ok reward := by
    rw [← big_of_hasInt hjson hvalue]
    show post jsonBig send rpcUrl "/wallet/getReward" (addressData address) readReward = _
    rw [post_eq hjson haccepted hreward, readReward, property_of_object haccepted.object]
    rfl
  have hassert : assertValidAddress isAddress address = pure () := if_pos hvalid
  -- the entries that have matured are the ones read as such
  have hmatured : ∀ p : ℤ → Prop, ∀ q : UnfrozenEntry → Prop, ∀ _ : DecidablePred p,
      ∀ _ : DecidablePred q, (∀ u : UnfrozenEntry, p u.read.expireTime ↔ q u) →
      ((account.read.unfreezing.filter fun u => p u.expireTime).map Unfreezing.amount).sum =
        ((account.unfrozenV2.filter fun u => q u).map UnfrozenEntry.amount).sum := by
    intro p q _ _ h
    rw [NodeAccount.read, List.filter_map, List.map_map]
    congr 2
    exact List.filter_congr fun u _ => decide_eq_decide.mpr (h u)
  rw [getBalances, hassert, pure_bind, haccount]
  show (createTronRpcClient jsonBig send rpcUrl).getReward address >>= _ = _
  rw [hrewards]
  show Except.ok (balancesOf account.read reward now) = _
  rw [balancesOf, totalFrozen_read,
    hmatured (fun t => now < t) (fun u => ¬u.Matured now) inferInstance inferInstance fun u => by
      rw [← expireTime_read_le_iff hnow, not_le],
    hmatured (fun t => t ≤ now) (fun u => u.Matured now) inferInstance inferInstance
      (expireTime_read_le_iff hnow)]
  rfl

end balances

/-! ### A wallet -/

/-- The owner of the wallet. -/
def walletOwner : String := "TMVQGm1qAQYVdetCeGRRkTWYYrLXuHK2HC"

/-- An integer field. -/
def intField (key : String) (value : ℤ) : String × Document := (key, .number (.integer value))

/-- An account with more SUN than a `number` can count, and an unfreezing entry without a time. -/
def walletNode : NodeAccount where
  balance := 9007199254740993
  frozenV2 := [⟨.bandwidth, 1000001⟩, ⟨.energy, 0⟩, ⟨.tronPower, 3⟩]
  unfrozenV2 := [⟨.energy, 5000000, 1700000000000⟩, ⟨.tronPower, 7, 0⟩]
  votes := []

/-- What the node writes for it. -/
def walletText : Document :=
  .object [
    ("address", .string walletOwner),
    intField "balance" 9007199254740993,
    ("frozenV2", .array [
      .object [intField "amount" 1000001],
      .object [("type", .string "ENERGY")],
      .object [("type", .string "TRON_POWER"), intField "amount" 3]]),
    ("unfrozenV2", .array [
      .object [("type", .string "ENERGY"), intField "unfreeze_amount" 5000000,
        intField "unfreeze_expire_time" 1700000000000],
      .object [("type", .string "TRON_POWER"), intField "unfreeze_amount" 7]])]

/-- An integer that is written is there. -/
theorem hasInt_written {text : Document} {key : String} {value : ℤ}
    (h : text.get key = some (.number (.integer value)))
    (hbounds : -2 ^ 63 ≤ value ∧ value < 2 ^ 63) : HasInt text key value :=
  ⟨hbounds, Or.inl h⟩

/-- The text is one of that account. -/
theorem renders_walletText : Renders walletText walletNode where
  object := ⟨_, rfl⟩
  ordinary := by decide +kernel
  readable := by decide +kernel
  balance := hasInt_written rfl (by decide)
  frozenV2 := .inl ⟨_, rfl, .cons ⟨⟨_, rfl⟩, .inr ⟨rfl, rfl⟩, hasInt_written rfl (by decide)⟩
    (.cons ⟨⟨_, rfl⟩, .inl rfl, ⟨by decide, .inr ⟨rfl, rfl⟩⟩⟩
      (.cons ⟨⟨_, rfl⟩, .inl rfl, hasInt_written rfl (by decide)⟩ .nil))⟩
  unfrozenV2 := .inl ⟨_, rfl, .cons ⟨⟨_, rfl⟩, .inl rfl, hasInt_written rfl (by decide),
      hasInt_written rfl (by decide)⟩
    (.cons ⟨⟨_, rfl⟩, .inl rfl, hasInt_written rfl (by decide),
      ⟨by decide, .inr ⟨rfl, rfl⟩⟩⟩ .nil)⟩
  votes := .inr ⟨rfl, rfl⟩

/-- The wallet is read to the last SUN. -/
theorem readAccount_walletText : (do readAccount (← vectorJsonBig.parse walletText)) =
    .ok
      { balance := 9007199254740993
        frozen := [{ resource := .bandwidth, amount := 1000001 }]
        unfreezing := [{ resource := .energy, amount := 5000000, expireTime := 1700000000000 },
          { resource := .bandwidth, amount := 7, expireTime := maxSafeInteger }]
        votes := [] } :=
  readAccount_of_renders vectorJsonBig_documented renders_walletText

/-- A node that knows the wallet. -/
def walletSend (request : PostRequest) : Except RequestError (Option Document) :=
  if request.url = "https://api.trongrid.io/wallet/getaccount" then .ok (some walletText)
  else .ok (some (.object [intField "reward" 12]))

/-- One of its two unfreezing entries can be claimed. -/
theorem getBalances_walletText :
    getBalances (fun _ => true)
        (createTronRpcClient vectorJsonBig walletSend "https://api.trongrid.io")
        1800000000000 walletOwner = .ok
      [{ type := .available, amount := 9007199254740993 }, { type := .staked, amount := 1000001 },
        { type := .pending, amount := 7 }, { type := .claimable, amount := 5000000 },
        { type := .rewards, amount := 12 }] := by
  have haccount : walletSend
      (addressRequest "https://api.trongrid.io" "/wallet/getaccount" walletOwner) =
        .ok (some walletText) := rfl
  have hreward : walletSend
      (addressRequest "https://api.trongrid.io" "/wallet/getReward" walletOwner) =
        .ok (some (.object [intField "reward" 12])) := rfl
  have haccepted : AcceptedText (.object [intField "reward" 12]) :=
    ⟨⟨_, rfl⟩, by decide +kernel, by decide +kernel⟩
  have hvalue : HasInt (.object [intField "reward" 12]) "reward" 12 :=
    hasInt_written rfl (by decide)
  have hvalid : (fun _ : String => true) walletOwner = true := rfl
  rw [getBalances_of_renders vectorJsonBig_documented hvalid haccount renders_walletText hreward
    haccepted hvalue (by decide)]
  decide +kernel

end GuardianStake.Tron
