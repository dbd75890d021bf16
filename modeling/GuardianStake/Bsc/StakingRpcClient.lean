import GuardianStake.Bsc.CallEncoding

/-!
# Reads of the staking contracts

`rpc/staking-rpc-client.ts` and `abi/staking-function-decoder.ts`: calls of the StakeHub and of the
credit contracts through a node, which may fail or answer with nothing.

* `StakingRpc.AnswersFrom` — a node that, where it answers, answers what the contracts do.
* `getShareBalance_sound`, `getSharesByPooledBNBData_sound`, `getUnbondRequestData_sound`,
  `getCreditContractValidators_sound` — **what is read is what the contract holds**, for the
  arguments that were meant.
* `buildUnsignedTransaction_takesHeld` — **the shares that are asked back** are those the credit
  contract reports.
* `fetchAllValidators_sound` — **the validators that are kept**, over the StakeHub's own table.
* `rpcOf`, `answersFrom_rpcOf` — a node in front of any contracts, which answers so.
-/

namespace GuardianStake.Bsc

open Sdk Found.Abi

/-! ## Credit contracts -/

/-- The functions of a credit contract that the package calls. -/
inductive StakeCreditFn
  | balanceOf
  | getSharesByPooledBNB
  | unbondRequest
  deriving DecidableEq, Repr

/-- Their signatures. Source: `abi/staking-function-encoder.ts`. -/
def StakeCreditFn.signature : StakeCreditFn → String
  | .balanceOf => "balanceOf(address)"
  | .getSharesByPooledBNB => "getSharesByPooledBNB(uint256)"
  | .unbondRequest => "unbondRequest(address,uint256)"

/-- A credit contract. Source: `abi/staking-function-encoder.ts`,
`abi/staking-function-decoder.ts`. -/
def stakeCredit : Interface StakeCreditFn where
  functions := [.balanceOf, .getSharesByPooledBNB, .unbondRequest]
  mem_functions f := by cases f <;> simp
  inputs
    | .balanceOf => [.elem .address]
    | .getSharesByPooledBNB => [.elem .uint256]
    | .unbondRequest => [.elem .address, .elem .uint256]
  outputs
    | .balanceOf => [.elem .uint256]
    | .getSharesByPooledBNB => [.elem .uint256]
    | .unbondRequest => [.elem .uint256, .elem .uint256, .elem .uint256]

/-! ## The code -/

/-- What the client uses of `viem`: calls, which may come back without data, and the decoder of
their results, where `addressText` is the text it gives an address. -/
structure StakingRpc where
  viem : Viem
  call : («to» data : String) → Result (Option String)
  decodeAbiParameters : (ts : List Ty) → (data : String) → Result (Tuple ts)
  addressText : AddressWord → String

/-- Source: `rpc/staking-rpc-client.ts`, `assertCallData`. -/
def assertCallData (res : Option String) (context : String) : Result String :=
  let empty := Thrown.api s!"StakingRpcClient: empty response from {context}."
  match res with
  | none => .error empty
  | some data => if data = "0x" then .error empty else .ok data

/-- Source: `abi/staking-function-encoder.ts`, `encodeGetValidatorsData`. -/
def encodeGetValidatorsData (viem : Viem) : Result String :=
  encodeFunctionCall viem "getValidators(uint256,uint256)" [.uint256 0, .uint256 100]

/-- Source: `abi/staking-function-encoder.ts`, `encodeBalanceOf`. -/
def encodeBalanceOf (viem : Viem) (delegator : String) : Result String :=
  encodeFunctionCall viem "balanceOf(address)" [.address delegator]

/-- Source: `abi/staking-function-encoder.ts`, `encodeGetSharesByPooledBNBData`. -/
def encodeGetSharesByPooledBNBData (viem : Viem) (amount : ℤ) : Result String :=
  encodeFunctionCall viem "getSharesByPooledBNB(uint256)" [.uint256 amount]

/-- Source: `abi/staking-function-encoder.ts`, `encodeUnbondRequestData`. -/
def encodeUnbondRequestData (viem : Viem) (delegator : String) (index : ℤ) : Result String :=
  encodeFunctionCall viem "unbondRequest(address,uint256)" [.address delegator, .uint256 index]

namespace StakingRpc

variable (rpc : StakingRpc)

/-- What the reads of `rpc/staking-rpc-client.ts` have in common: encode, call, decode. -/
def read (encoded : Result String) («to» context : String) (ts : List Ty) : Result (Tuple ts) := do
  let data ← encoded
  let res ← rpc.call «to» data
  let data ← assertCallData res context
  rpc.decodeAbiParameters ts data

/-- Source: `rpc/staking-rpc-client.ts`, `getCreditContractValidators`, with `decodeGetValidators`
of `abi/staking-function-decoder.ts`. -/
def getCreditContractValidators : Result CreditContracts := do
  let decoded ← rpc.read (encodeGetValidatorsData rpc.viem) stakingContract
    "getCreditContractValidators" [.array .address, .array .address, .elem .uint256]
  match decoded with
  | .array operatorAddrs (.array creditAddrs _) =>
      return Bsc.getCreditContractValidators (operatorAddrs.map rpc.addressText)
        (creditAddrs.map rpc.addressText)

/-- Source: `rpc/staking-rpc-client.ts`, `getUnbondRequestData`, with `decodeUnbond` of
`abi/staking-function-decoder.ts`. -/
def getUnbondRequestData (creditContract delegator : String) (index : ℕ) :
    Result UnbondRequest := do
  let decoded ← rpc.read (encodeUnbondRequestData rpc.viem delegator index) creditContract
    "getUnbondRequestData" [.elem .uint256, .elem .uint256, .elem .uint256]
  match decoded with
  | .word _ (.word amount (.word unlockTime .nil)) =>
      return { amount := amount.val, unlockTime := unlockTime.val }

/-- Source: `rpc/staking-rpc-client.ts`, `getShareBalance`. -/
def getShareBalance (creditContract delegator : String) : Result ℤ := do
  let decoded ← rpc.read (encodeBalanceOf rpc.viem delegator) creditContract "getShareBalance"
    [.elem .uint256]
  match decoded with
  | .word shares .nil => return shares.val

/-- Source: `rpc/staking-rpc-client.ts`, `getSharesByPooledBNBData`. -/
def getSharesByPooledBNBData (creditContract : String) (amount : ℤ) : Result ℤ := do
  let decoded ← rpc.read (encodeGetSharesByPooledBNBData rpc.viem amount) creditContract
    "getSharesByPooledBNBData" [.elem .uint256]
  match decoded with
  | .word shares .nil => return shares.val

/-- The reads that signing makes. -/
def toStakingRpcClient : StakingRpcClient where
  getSharesByPooledBNBData := rpc.getSharesByPooledBNBData
  getShareBalance := rpc.getShareBalance

end StakingRpc

/-! ## Contracts behind a node -/

/-- What the contracts answer to calls; a call that reverts has no answer. -/
structure Contracts where
  hub : (call : stakeHub.Call) → Option (Tuple (stakeHub.outputs call.1))
  credit : AddressWord → (call : stakeCredit.Call) → Option (Tuple (stakeCredit.outputs call.1))

/-- The first hundred validators. Source: `abi/staking-function-encoder.ts`,
`encodeGetValidatorsData`. -/
def getValidatorsCall : stakeHub.Call :=
  ⟨.getValidators, .word ⟨0, by norm_num [Elem.card]⟩ (.word ⟨100, by norm_num [Elem.card]⟩ .nil)⟩

/-- The text of a result. -/
def resultText {ts : List Ty} (v : Tuple ts) : String := String.ofList ('0' :: 'x' :: encodeHex v)

/-- A result that is a result of a call: its text is not longer than words can count. -/
def Sized {ts : List Ty} (v : Tuple ts) : Prop := 32 * (encode v).length < 2 ^ 256

/-- A node that may fail or answer with nothing, but answers with what the contract at an address
answers with to the call it reads. -/
def StakingRpc.Serves {F : Type} (rpc : StakingRpc) (I : Interface F) (signature : F → String)
    («to» : String) (answer : (call : I.Call) → Option (Tuple (I.outputs call.1))) : Prop :=
  ∀ {data res call}, rpc.call «to» data = .ok (some res) → res ≠ "0x" →
    decodeCall rpc.viem I signature data = some call →
    ∃ v, answer call = some v ∧ Sized v ∧ res = resultText v

/-- The documented behaviour of a node and of `viem`: `viem` encodes arguments, tells functions apart
by their selectors, decodes what is encoded and gives addresses their checksummed texts; the node
serves the contracts. -/
structure StakingRpc.AnswersFrom (rpc : StakingRpc) (contracts : Contracts) : Prop where
  encodes : rpc.viem.EncodesAbi
  selectsHub : rpc.viem.Selects StakeHubFn.signature
  selectsCredit : rpc.viem.Selects StakeCreditFn.signature
  decodes : ∀ {ts : List Ty} (v : Tuple ts), Sized v →
    rpc.decodeAbiParameters ts (resultText v) = .ok v
  hub : rpc.Serves stakeHub StakeHubFn.signature stakingContract contracts.hub
  credit : ∀ {«to» c}, AddressIs rpc.viem «to» c →
    rpc.Serves stakeCredit StakeCreditFn.signature «to» (contracts.credit c)
  texts : ∀ a, rpc.viem.getAddress (rpc.addressText a) = rpc.addressText a ∧
    addressWord (rpc.addressText a) = some a

section reads

variable {rpc : StakingRpc} {contracts : Contracts}

theorem assertCallData_eq_ok {res : Option String} {context data : String} :
    assertCallData res context = .ok data ↔ res = some data ∧ data ≠ "0x" := by
  unfold assertCallData
  cases res with
  | none => simp
  | some data' =>
      simp only [Option.some.injEq]
      split_ifs with h
      · simp only [false_iff, not_and, not_not]
        rintro rfl
        exact h
      · rw [Except.ok.injEq]
        exact ⟨fun heq => ⟨heq, heq ▸ h⟩, And.left⟩

/-- A read that succeeds decoded data that came back. -/
theorem read_eq_ok {encoded : Result String} {«to» context : String} {ts : List Ty} {v : Tuple ts}
    (h : rpc.read encoded «to» context ts = .ok v) : ∃ data res, encoded = .ok data ∧
      rpc.call «to» data = .ok (some res) ∧ res ≠ "0x" ∧
        rpc.decodeAbiParameters ts res = .ok v := by
  obtain ⟨data, hdata, h⟩ := bind_eq_ok.mp h
  obtain ⟨res, hres, h⟩ := bind_eq_ok.mp h
  obtain ⟨answer, hanswer, hdecode⟩ := bind_eq_ok.mp h
  obtain ⟨rfl, hne⟩ := assertCallData_eq_ok.mp hanswer
  exact ⟨data, answer, hdata, hres, hne, hdecode⟩

/-- **What is read of a contract is its answer** to the call that was meant. -/
theorem answer_of_read (hreads : rpc.AnswersFrom contracts) {F : Type} {I : Interface F}
    {signature : F → String} (hselects : rpc.viem.Selects signature) {«to» context : String}
    {answer : (call : I.Call) → Option (Tuple (I.outputs call.1))}
    (hserves : rpc.Serves I signature «to» answer) (call : I.Call) {params : List AbiValue}
    (hsize : (encode call.2).length ≤ 4)
    (hwords : params.mapM (AbiValue.word rpc.viem) = some (encode call.2))
    {v : Tuple (I.outputs call.1)}
    (h : rpc.read (encodeFunctionCall rpc.viem (signature call.1) params) «to» context
      (I.outputs call.1) = .ok v) :
    answer call = some v := by
  obtain ⟨data, res, hdata, hcall, hne, hdecode⟩ := read_eq_ok h
  have hmeant : decodeCall rpc.viem I signature data = some call :=
    decodeCall_encodeFunctionCall hreads.encodes hselects call (by omega) hwords hdata
  obtain ⟨v', hv', hsized, rfl⟩ := hserves hcall hne hmeant
  obtain rfl := Except.ok.inj ((hreads.decodes v' hsized).symm.trans hdecode)
  exact hv'

/-- What is read was encoded. -/
theorem words_of_read (hreads : rpc.AnswersFrom contracts) {functionSignature : String}
    {params : List AbiValue} {«to» context : String} {ts : List Ty} {v : Tuple ts}
    (h : rpc.read (encodeFunctionCall rpc.viem functionSignature params) «to» context ts = .ok v) :
    ∃ words, params.mapM (AbiValue.word rpc.viem) = some words := by
  obtain ⟨data, -, hdata, -⟩ := read_eq_ok h
  obtain ⟨words, hwords, -⟩ := (encodeFunctionCall_eq_ok hreads.encodes).mp hdata
  exact ⟨words, hwords⟩

/-- **The shares that are read** are those the credit contract holds for the delegator. -/
theorem getShareBalance_sound (hreads : rpc.AnswersFrom contracts)
    {creditContract delegator : String} {c : AddressWord}
    (hcredit : AddressIs rpc.viem creditContract c) {shares : ℤ}
    (h : rpc.getShareBalance creditContract delegator = .ok shares) :
    ∃ (d : AddressWord) (n : Uint256), AddressIs rpc.viem delegator d ∧
      contracts.credit c ⟨.balanceOf, .word d .nil⟩ = some (.word n .nil) ∧
        shares = (n.val : ℤ) := by
  obtain ⟨decoded, hread, h⟩ := bind_eq_ok.mp h
  obtain ⟨words, hwords⟩ := words_of_read hreads hread
  obtain ⟨w, ws, hw, hws, rfl⟩ := mapM_word_cons.mp hwords
  obtain ⟨d, hd, rfl⟩ := word_address_iff.mp hw
  obtain rfl := mapM_word_nil.mp hws
  have hanswer := answer_of_read hreads hreads.selectsCredit (hreads.credit hcredit)
    ⟨.balanceOf, .word d .nil⟩ (Nat.le_of_ble_eq_true rfl) hwords hread
  obtain ⟨n, rest, rfl⟩ := decoded.exists_word
  obtain rfl := rest.eq_nil
  exact ⟨d, n, hd, hanswer, (Except.ok.inj h).symm⟩

/-- **The shares an amount is worth** are what the credit contract says. -/
theorem getSharesByPooledBNBData_sound (hreads : rpc.AnswersFrom contracts)
    {creditContract : String} {c : AddressWord} (hcredit : AddressIs rpc.viem creditContract c)
    {amount shares : ℤ} (h : rpc.getSharesByPooledBNBData creditContract amount = .ok shares) :
    ∃ a n : Uint256, amount = (a.val : ℤ) ∧
      contracts.credit c ⟨.getSharesByPooledBNB, .word a .nil⟩ = some (.word n .nil) ∧
        shares = (n.val : ℤ) := by
  obtain ⟨decoded, hread, h⟩ := bind_eq_ok.mp h
  obtain ⟨words, hwords⟩ := words_of_read hreads hread
  obtain ⟨w, ws, hw, hws, rfl⟩ := mapM_word_cons.mp hwords
  obtain ⟨a, rfl, rfl⟩ := word_uint256_eq_some.mp hw
  obtain rfl := mapM_word_nil.mp hws
  have hanswer := answer_of_read hreads hreads.selectsCredit (hreads.credit hcredit)
    ⟨.getSharesByPooledBNB, .word a .nil⟩ (Nat.le_of_ble_eq_true rfl) hwords hread
  obtain ⟨n, rest, rfl⟩ := decoded.exists_word
  obtain rfl := rest.eq_nil
  exact ⟨a, n, rfl, hanswer, (Except.ok.inj h).symm⟩

/-- **The unbond request that is read** is the one at that position of the credit contract. -/
theorem getUnbondRequestData_sound (hreads : rpc.AnswersFrom contracts)
    {creditContract delegator : String} {c : AddressWord}
    (hcredit : AddressIs rpc.viem creditContract c) {index : ℕ} {request : UnbondRequest}
    (h : rpc.getUnbondRequestData creditContract delegator index = .ok request) :
    ∃ (d : AddressWord) (i shares amount unlockTime : Uint256), AddressIs rpc.viem delegator d ∧
      index = i.val ∧ contracts.credit c ⟨.unbondRequest, .word d (.word i .nil)⟩ =
        some (.word shares (.word amount (.word unlockTime .nil))) ∧
      request = { amount := (amount.val : ℤ), unlockTime := (unlockTime.val : ℤ) } := by
  obtain ⟨decoded, hread, h⟩ := bind_eq_ok.mp h
  obtain ⟨words, hwords⟩ := words_of_read hreads hread
  obtain ⟨⟨d, i⟩, ⟨hd, hi⟩, rfl⟩ := mapM_word_operator_number.mp hwords
  have hanswer := answer_of_read hreads hreads.selectsCredit (hreads.credit hcredit)
    ⟨.unbondRequest, .word d (.word i .nil)⟩ (Nat.le_of_ble_eq_true rfl) hwords hread
  obtain ⟨shares, rest, rfl⟩ := decoded.exists_word
  obtain ⟨amount, rest, rfl⟩ := rest.exists_word
  obtain ⟨unlockTime, rest, rfl⟩ := rest.exists_word
  obtain rfl := rest.eq_nil
  exact ⟨d, i, shares, amount, unlockTime, hd, by exact_mod_cast hi, hanswer,
    (Except.ok.inj h).symm⟩

/-- **The table that is read** is the first hundred validators of the StakeHub. -/
theorem getCreditContractValidators_sound (hreads : rpc.AnswersFrom contracts)
    {table : CreditContracts} (h : rpc.getCreditContractValidators = .ok table) :
    ∃ operatorAddrs creditAddrs total, contracts.hub getValidatorsCall =
        some (.array operatorAddrs (.array creditAddrs (.word total .nil))) ∧
      table = getCreditContractValidators (operatorAddrs.map rpc.addressText)
        (creditAddrs.map rpc.addressText) := by
  obtain ⟨decoded, hread, h⟩ := bind_eq_ok.mp h
  have hanswer := answer_of_read hreads hreads.selectsHub hreads.hub getValidatorsCall
    (Nat.le_of_ble_eq_true rfl) rfl hread
  obtain ⟨operatorAddrs, rest, rfl⟩ := decoded.exists_array
  obtain ⟨creditAddrs, rest, rfl⟩ := rest.exists_array
  obtain ⟨total, rest, rfl⟩ := rest.exists_word
  obtain rfl := rest.eq_nil
  exact ⟨operatorAddrs, creditAddrs, total, hanswer, (Except.ok.inj h).symm⟩

end reads

/-! ## Texts of addresses -/

section texts

variable {viem : Viem}

theorem foldl_digits_lt {digits : List ℕ} (hdigits : ∀ d ∈ digits, d < 16) (before : ℕ) :
    digits.foldl (fun before digit => 16 * before + digit) before <
      (before + 1) * 16 ^ digits.length := by
  induction digits generalizing before with
  | nil => simp
  | cons d digits ih =>
      obtain ⟨hd, hdigits⟩ := List.forall_mem_cons.mp hdigits
      rw [List.foldl_cons, List.length_cons]
      calc digits.foldl (fun before digit => 16 * before + digit) (16 * before + d)
          < (16 * before + d + 1) * 16 ^ digits.length := ih hdigits _
        _ ≤ (16 * (before + 1)) * 16 ^ digits.length := Nat.mul_le_mul_right _ (by omega)
        _ = (before + 1) * 16 ^ (digits.length + 1) := by ring

/-- An address that is accepted denotes a number. -/
theorem addressIs_of_isAddress (hviem : viem.Checksums) {address : String}
    (h : viem.isAddress address = true) : ∃ a, AddressIs viem address a := by
  obtain ⟨digits, hdigits⟩ := Option.isSome_iff_exists.mp ((hviem.isAddress_iff _).mp h).1
  obtain ⟨hlen, hlt⟩ := addressValue_eq_some hdigits
  have hfold : digits.foldl (fun before digit => 16 * before + digit) 0 < Elem.address.card := by
    calc digits.foldl (fun before digit => 16 * before + digit) 0
        < (0 + 1) * 16 ^ digits.length := foldl_digits_lt hlt 0
      _ = Elem.address.card := by rw [hlen]; norm_num [Elem.card]
  refine ⟨⟨_, hfold⟩, h, ?_⟩
  rw [addressWord, hdigits]
  exact dif_pos hfold

end texts

/-! ## What signing takes -/

/-- The shares of a transaction, as the credit contract of a validator reports them: all that the
account holds, or what the amount is worth. -/
inductive HeldShares (viem : Viem) (contracts : Contracts) (base : BaseTransaction)
    (validator : Validator) (shares : Uint256) : Bool → Prop
  | all {account : String} {c d : AddressWord} (haccount : base.account = some account)
      (hcredit : AddressIs viem validator.creditAddress c) (hdelegator : AddressIs viem account d)
      (hanswer : contracts.credit c ⟨.balanceOf, .word d .nil⟩ = some (.word shares .nil)) :
      HeldShares viem contracts base validator shares true
  | worth {c : AddressWord} {amount : Uint256} (hamount : base.amount = (amount.val : ℤ))
      (hcredit : AddressIs viem validator.creditAddress c)
      (hanswer : contracts.credit c ⟨.getSharesByPooledBNB, .word amount .nil⟩ =
        some (.word shares .nil)) :
      HeldShares viem contracts base validator shares false

/-- The call that asks back what is held. -/
inductive AsksBack (viem : Viem) (contracts : Contracts) : Transaction → stakeHub.Call → Prop
  | undelegate {base : BaseTransaction} {isMaxAmount : Bool} {validator : Validator}
      {resource stakeAccount : Option String} {operator : AddressWord} {shares : Uint256}
      (hshares : HeldShares viem contracts base validator shares isMaxAmount)
      (hoperator : AddressIs viem validator.operatorAddress operator) :
      AsksBack viem contracts
        (.undelegate base isMaxAmount (some (.validator validator)) resource stakeAccount)
        (undelegateCall operator shares)
  | redelegate {base : BaseTransaction} {isMaxAmount : Bool} {fromValidator : Validator}
      {toValidator : ValidatorRef} {src dst : AddressWord} {shares : Uint256}
      (hshares : HeldShares viem contracts base fromValidator shares isMaxAmount)
      (hsrc : AddressIs viem fromValidator.operatorAddress src)
      (hdst : AddressIs viem toValidator.address dst) :
      AsksBack viem contracts (.redelegate base isMaxAmount (.validator fromValidator) toValidator)
        (redelegateCall src dst shares)

section held

variable {rpc : StakingRpc} {contracts : Contracts}

/-- Shares that are read are reported by the credit contract. -/
theorem heldShares_of_takesShares (hviem : rpc.viem.Checksums)
    (hreads : rpc.AnswersFrom contracts) {base : BaseTransaction} {validator : Validator}
    {shares : Uint256} {isMaxAmount : Bool}
    (h : TakesShares rpc.viem rpc.toStakingRpcClient base validator shares isMaxAmount) :
    HeldShares rpc.viem contracts base validator shares isMaxAmount := by
  cases h with
  | all haccount _ hcredit hread =>
      obtain ⟨c, hc⟩ := addressIs_of_isAddress hviem hcredit
      obtain ⟨d, n, hd, hanswer, hn⟩ := getShareBalance_sound hreads hc hread
      obtain rfl : n = shares := Fin.ext (by exact_mod_cast hn.symm)
      exact .all haccount hc hd hanswer
  | worth hcredit hread =>
      obtain ⟨c, hc⟩ := addressIs_of_isAddress hviem hcredit
      obtain ⟨a, n, hamount, hanswer, hn⟩ := getSharesByPooledBNBData_sound hreads hc hread
      obtain rfl : n = shares := Fin.ext (by exact_mod_cast hn.symm)
      exact .worth hamount hc hanswer

/-- **What an Undelegate or Redelegate asks back** is what the credit contract says is held, and
nothing is sent with it. -/
theorem buildUnsignedTransaction_takesHeld (hviem : rpc.viem.Checksums)
    (hreads : rpc.AnswersFrom contracts) {signArgs : BaseSignArgs}
    (htype : CarriesShares signArgs.transaction) {unsignedTx : TransactionSerializable}
    (h : buildUnsignedTransaction rpc.viem rpc.toStakingRpcClient signArgs = .ok unsignedTx) :
    unsignedTx.value = 0 ∧ ∃ call, decodeStakeHub rpc.viem unsignedTx.data = some call ∧
      AsksBack rpc.viem contracts signArgs.transaction call := by
  obtain ⟨callData, hcallData, h⟩ := bind_eq_ok.mp h
  unfold buildBaseTransaction at h
  split at h
  case h_2 => cases h
  obtain rfl := Except.ok.inj h
  obtain ⟨call, hrequests, hdecode⟩ :=
    requests_of_buildCallData hreads.encodes hreads.selectsHub hcallData
  generalize signArgs.transaction = transaction at htype hrequests ⊢
  generalize callData.amount = value at hrequests ⊢
  cases hrequests with
  | delegate => rcases htype with htype | htype <;> cases htype
  | undelegate hshares hoperator =>
      have hheld := heldShares_of_takesShares hviem hreads hshares
      exact ⟨rfl, _, hdecode, .undelegate hheld hoperator⟩
  | redelegate hshares hsrc hdst =>
      have hheld := heldShares_of_takesShares hviem hreads hshares
      exact ⟨rfl, _, hdecode, .redelegate hheld hsrc hdst⟩
  | claim => rcases htype with htype | htype <;> cases htype

end held

/-! ## Which validators are kept -/

/-- The credit contract of an operator in a table of the StakeHub, by the spelling of its address;
of two entries for one operator the later one counts. -/
def hubCredit (rpc : StakingRpc) (table : List (AddressWord × AddressWord))
    (operatorAddress : String) : Option String :=
  (table.reverse.find? fun e => rpc.addressText e.1 = operatorAddress).map fun e =>
    rpc.addressText e.2

section kept

variable {rpc : StakingRpc} {contracts : Contracts} {operatorAddrs creditAddrs : List AddressWord}

/-- The table that is read, looked up. -/
theorem get_getCreditContractValidators (hlen : operatorAddrs.length = creditAddrs.length)
    (operatorAddress : String) :
    (getCreditContractValidators (operatorAddrs.map rpc.addressText)
        (creditAddrs.map rpc.addressText)).get operatorAddress =
      (hubCredit rpc (operatorAddrs.zip creditAddrs) operatorAddress).map some := by
  have hentries : ((operatorAddrs.map rpc.addressText).zipIdx.map fun e =>
        (e.1, (creditAddrs.map rpc.addressText)[e.2]?)) =
      (operatorAddrs.zip creditAddrs).map fun e =>
        (rpc.addressText e.1, some (rpc.addressText e.2)) := by
    apply List.ext_getElem
    · simp [hlen]
    · intro i hi hi'
      have hcredit : i < creditAddrs.length := by simpa [hlen] using hi
      simp [hcredit]
  have hfold : getCreditContractValidators (operatorAddrs.map rpc.addressText)
        (creditAddrs.map rpc.addressText) =
      ((operatorAddrs.zip creditAddrs).map fun e =>
        (rpc.addressText e.1, some (rpc.addressText e.2))).foldl
          (fun m e => m.set e.1 e.2) JsMap.empty := by
    rw [← hentries, List.foldl_map]
    rfl
  rw [hfold, JsMap.get_foldl_set, JsMap.get_empty, Option.or_none, ← List.map_reverse,
    List.find?_map, hubCredit, Option.map_map, Option.map_map]
  rfl

/-- A validator of the API is kept with the credit contract the StakeHub has for it. -/
theorem mapValidator_of_table (hviem : rpc.viem.Checksums) (hreads : rpc.AnswersFrom contracts)
    (hlen : operatorAddrs.length = creditAddrs.length) {bnbValidator : BNBChainValidator}
    {kept : List Validator}
    (h : mapValidator rpc.viem (getCreditContractValidators (operatorAddrs.map rpc.addressText)
      (creditAddrs.map rpc.addressText)) bnbValidator = .ok kept) :
    kept = ((hubCredit rpc (operatorAddrs.zip creditAddrs) bnbValidator.operatorAddress).map
      (toValidator bnbValidator)).toList := by
  obtain ⟨operatorAddress, haddress, h⟩ := bind_eq_ok.mp h
  obtain ⟨-, rfl⟩ := parseEvmAddress_eq_ok.mp haddress
  rw [get_getCreditContractValidators hlen] at h
  cases hcredit : hubCredit rpc (operatorAddrs.zip creditAddrs) bnbValidator.operatorAddress with
  | none =>
      rw [hcredit] at h
      exact (Except.ok.inj h).symm
  | some creditAddress =>
      obtain ⟨e, -, rfl⟩ := Option.map_eq_some_iff.mp hcredit
      obtain ⟨hnorm, hvalue⟩ := hreads.texts e.2
      have hsome : (addressValue (rpc.addressText e.2)).isSome = true := by
        unfold addressWord at hvalue
        obtain ⟨digits, hdigits, -⟩ := Option.bind_eq_some_iff.mp hvalue
        exact Option.isSome_of_eq_some hdigits
      have hne : rpc.addressText e.2 ≠ "" := by
        intro hempty
        rw [hempty] at hsome
        exact absurd hsome (by decide)
      have hfilter : (some (rpc.addressText e.2)).filter (· ≠ "") = some (rpc.addressText e.2) := by
        simp [hne]
      have hparse := parseEvmAddress_eq_ok.mpr
        ⟨(hviem.isAddress_iff _).mpr ⟨hsome, Or.inr hnorm⟩, rfl⟩
      rw [hcredit] at h
      simp only [Option.map_some, Option.bind_some, id, hfilter, hparse] at h
      exact (Except.ok.inj h).symm

/-- **The validators that are kept** are those of the API that the first hundred of the StakeHub
have, each with the credit contract the StakeHub has for it. -/
theorem fetchAllValidators_sound (hviem : rpc.viem.Checksums)
    (hreads : rpc.AnswersFrom contracts) {bnbValidators : List BNBChainValidator}
    {validators : List Validator}
    (h : fetchAllValidators rpc.viem none (.ok bnbValidators) rpc.getCreditContractValidators =
      .ok validators) :
    ∃ operatorAddrs creditAddrs total, contracts.hub getValidatorsCall =
        some (.array operatorAddrs (.array creditAddrs (.word total .nil))) ∧
      (operatorAddrs.length = creditAddrs.length →
        validators = bnbValidators.filterMap fun v =>
          (hubCredit rpc (operatorAddrs.zip creditAddrs) v.operatorAddress).map
            (toValidator v)) := by
  obtain ⟨_, hbnb, h⟩ := bind_eq_ok.mp h
  obtain rfl := Except.ok.inj hbnb
  obtain ⟨table, htable, h⟩ := bind_eq_ok.mp h
  obtain ⟨operatorAddrs, creditAddrs, total, hanswer, rfl⟩ :=
    getCreditContractValidators_sound hreads htable
  refine ⟨operatorAddrs, creditAddrs, total, hanswer, fun hlen => ?_⟩
  obtain ⟨lists, hlists, h⟩ := bind_eq_ok.mp h
  obtain rfl := Except.ok.inj h
  have heach : bnbValidators.map (fun v =>
      ((hubCredit rpc (operatorAddrs.zip creditAddrs) v.operatorAddress).map
        (toValidator v)).toList) = lists := by
    rw [← List.forall₂_eq_eq_eq, List.forall₂_map_left_iff]
    exact (mapM_eq_ok.mp hlists).imp fun _ _ hkept =>
      (mapValidator_of_table hviem hreads hlen hkept).symm
  rw [List.filterMap_eq_flatMap_toList, List.flatMap_def, heach]

end kept

theorem selectsCredit_withWords (viem : Viem) : viem.withWords.Selects StakeCreditFn.signature := by
  constructor
  · intro f
    show (selectorOf f.signature).toList.length = 10
    cases f <;> decide +kernel
  · intro f f' h
    have heq : selectorOf f.signature = selectorOf f'.signature := h
    cases f <;> cases f' <;> first | rfl | exact absurd heq (by decide +kernel)

theorem checksums_withWords {viem : Viem} (hviem : viem.Checksums) : viem.withWords.Checksums :=
  ⟨hviem.isAddress_iff, hviem.normalForm⟩

/-! ### A node -/

/-- The text of a number, in lower case. -/
def addressHex (a : AddressWord) : String := String.ofList ('0' :: 'x' :: hexDigits 40 a.val)

/-- The digits of a number are read as digits of it. -/
theorem mapM_digitValue_hexDigits {k n : ℕ} (hn : n < 16 ^ k) :
    ∃ digits, (hexDigits k n).mapM (digitValue 16) = some digits ∧
      digits.foldl (fun before digit => 16 * before + digit) 0 = n := by
  induction k generalizing n with
  | zero =>
      obtain rfl : n = 0 := by simpa using hn
      exact ⟨[], rfl, rfl⟩
  | succ k ih =>
      rw [pow_succ] at hn
      obtain ⟨digits, hdigits, hfold⟩ := ih (Nat.div_lt_of_lt_mul (by omega) : n / 16 < 16 ^ k)
      have hmod : n % 16 < 16 := Nat.mod_lt n (by norm_num)
      have hlast : digitValue 16 (hexAlphabet.getD (n % 16) '0') = some (n % 16) := by
        generalize n % 16 = d at hmod
        interval_cases d <;> rfl
      refine ⟨digits ++ [n % 16], ?_, ?_⟩
      · rw [hexDigits, List.mapM_append, hdigits]
        simp only [List.mapM_cons, hlast, List.mapM_nil]
        rfl
      · rw [List.foldl_append, hfold]
        simp only [List.foldl_cons, List.foldl_nil]
        omega

/-- A number is read back from its text, and from the text with its checksum. -/
theorem addressWord_getAddress {viem : Viem} (hviem : viem.Checksums) (a : AddressWord) :
    viem.getAddress (viem.getAddress (addressHex a)) = viem.getAddress (addressHex a) ∧
      addressWord (viem.getAddress (addressHex a)) = some a := by
  have ha : a.val < 16 ^ 40 := a.isLt.trans_eq (by norm_num [Elem.card])
  obtain ⟨digits, hdigits, hfold⟩ := mapM_digitValue_hexDigits ha
  have hvalue : addressValue (addressHex a) = some digits := by
    rw [addressValue, addressHex, String.toList_ofList]
    simp only [length_hexDigits, if_true]
    exact hdigits
  have hsome : (addressValue (addressHex a)).isSome = true := Option.isSome_of_eq_some hvalue
  have hsame := hviem.normalForm.value_norm hsome
  refine ⟨?_, ?_⟩
  · exact (hviem.normalForm.norm_eq hsome hsame.symm).symm
  · rw [addressWord, hsame, hvalue]
    show ofWord .address (digits.foldl (fun before digit => 16 * before + digit) 0) = some a
    rw [hfold]
    exact ofWord_val a

/-- A node in front of contracts. -/
def nodeOf (viem : Viem) (contracts : Contracts) («to» data : String) : Result (Option String) :=
  match decodeCall viem stakeCredit StakeCreditFn.signature data with
  | some call => .ok ((addressWord «to»).bind fun c => (contracts.credit c call).map resultText)
  | none =>
      if «to» = stakingContract then
        .ok ((decodeStakeHub viem data).bind fun call => (contracts.hub call).map resultText)
      else .ok none

/-- `viem` with a node in front of contracts. -/
def rpcOf (viem : Viem) (contracts : Contracts) : StakingRpc where
  viem := viem.withWords
  call := nodeOf viem.withWords contracts
  decodeAbiParameters := fun ts data =>
    match decodeHex ts (data.toList.drop 2) with
    | some v => .ok v
    | none => .error (.foreign "not decoded")
  addressText := fun a => viem.getAddress (addressHex a)

/-- What is encoded is decoded. -/
theorem decodes_rpcOf {viem : Viem} {contracts : Contracts} {ts : List Ty} (v : Tuple ts)
    (hv : Sized v) :
    (rpcOf viem contracts).decodeAbiParameters ts (resultText v) = .ok v := by
  show (match decodeHex _ ((resultText v).toList.drop 2) with
    | some v => .ok v
    | none => .error (Thrown.foreign "not decoded")) = Except.ok v
  rw [resultText, String.toList_ofList, List.drop_succ_cons, List.drop_succ_cons, List.drop_zero,
    decodeHex_encodeHex v hv]

/-- The node serves its contracts, where the StakeHub is no credit contract. -/
theorem answersFrom_rpcOf {viem : Viem} {contracts : Contracts} (hviem : viem.Checksums)
    (hhub : ∀ {c}, addressWord stakingContract = some c → ∀ call, contracts.credit c call = none)
    (hsized : ∀ {call v}, contracts.hub call = some v → Sized v)
    (hsized' : ∀ {c call v}, contracts.credit c call = some v → Sized v) :
    (rpcOf viem contracts).AnswersFrom contracts where
  encodes := encodesAbi_withWords viem
  selectsHub := selectsHub_withWords viem
  selectsCredit := selectsCredit_withWords viem
  decodes := decodes_rpcOf
  hub := by
    intro data res call hcall _ hdecode
    change nodeOf viem.withWords contracts stakingContract data = _ at hcall
    change decodeCall viem.withWords stakeHub StakeHubFn.signature data = _ at hdecode
    unfold nodeOf at hcall
    split at hcall
    · next credit _ =>
        obtain ⟨c, hc, hres⟩ := Option.bind_eq_some_iff.mp (Except.ok.inj hcall)
        rw [hhub hc] at hres
        cases hres
    · rw [if_pos rfl, decodeStakeHub, hdecode] at hcall
      obtain ⟨v, hv, rfl⟩ := Option.map_eq_some_iff.mp (Except.ok.inj hcall)
      exact ⟨v, hv, hsized hv, rfl⟩
  credit := by
    intro «to» c hto data res call hcall _ hdecode
    change nodeOf viem.withWords contracts «to» data = _ at hcall
    change decodeCall viem.withWords stakeCredit StakeCreditFn.signature data = _ at hdecode
    unfold nodeOf at hcall
    rw [hdecode] at hcall
    obtain ⟨c', hc, hres⟩ := Option.bind_eq_some_iff.mp (Except.ok.inj hcall)
    obtain rfl := Option.some.inj (hc.symm.trans hto.2)
    obtain ⟨v, hv, rfl⟩ := Option.map_eq_some_iff.mp hres
    exact ⟨v, hv, hsized' hv, rfl⟩
  texts a := addressWord_getAddress hviem a


/-- What the node's contracts answer is read, unless it is nothing. -/
theorem read_rpcOf {viem : Viem} {contracts : Contracts} {F : Type} {I : Interface F}
    {signature : F → String} {call : I.Call} {params : List AbiValue} {«to» context : String}
    {v : Tuple (I.outputs call.1)} (hsized : Sized v) (hne : resultText v ≠ "0x")
    (hwords : params.mapM (AbiValue.word viem.withWords) = some (encode call.2))
    (hnode : ∀ {data}, encodeFunctionCall viem.withWords (signature call.1) params = .ok data →
      nodeOf viem.withWords contracts «to» data = .ok (some (resultText v))) :
    (rpcOf viem contracts).read (encodeFunctionCall viem.withWords (signature call.1) params) «to»
      context (I.outputs call.1) = .ok v := by
  obtain ⟨data, hdata⟩ : ∃ data,
      encodeFunctionCall viem.withWords (signature call.1) params = .ok data :=
    ⟨_, (encodeFunctionCall_eq_ok (encodesAbi_withWords viem)).mpr
      ⟨_, hwords, String.toList_ofList⟩⟩
  refine bind_eq_ok.mpr ⟨data, hdata, bind_eq_ok.mpr ⟨_, hnode hdata, ?_⟩⟩
  exact bind_eq_ok.mpr ⟨_, assertCallData_eq_ok.mpr ⟨rfl, hne⟩, decodes_rpcOf v hsized⟩

/-- The answer of a credit contract. -/
theorem nodeOf_credit {viem : Viem} {contracts : Contracts} {call : stakeCredit.Call}
    {params : List AbiValue} {«to» data : String} {c : AddressWord}
    {v : Tuple (stakeCredit.outputs call.1)} (hto : addressWord «to» = some c)
    (hsize : (encode call.2).length ≤ 4)
    (hwords : params.mapM (AbiValue.word viem.withWords) = some (encode call.2))
    (hanswer : contracts.credit c call = some v)
    (hdata : encodeFunctionCall viem.withWords call.1.signature params = .ok data) :
    nodeOf viem.withWords contracts «to» data = .ok (some (resultText v)) := by
  have hdecode : decodeCall viem.withWords stakeCredit StakeCreditFn.signature data = some call :=
    decodeCall_encodeFunctionCall (encodesAbi_withWords viem) (selectsCredit_withWords viem) call
      (by omega) hwords hdata
  unfold nodeOf
  rw [hdecode]
  show Except.ok ((addressWord «to»).bind fun c => (contracts.credit c call).map resultText) = _
  rw [hto, Option.bind_some, hanswer]
  rfl

/-- The StakeHub's functions are not a credit contract's. -/
theorem decodeCall_stakeCredit_eq_none {viem : Viem} {f : StakeHubFn} {params : List AbiValue}
    {data : String} (hdata : encodeFunctionCall viem.withWords f.signature params = .ok data) :
    decodeCall viem.withWords stakeCredit StakeCreditFn.signature data = none := by
  obtain ⟨words, -, htext⟩ := (encodeFunctionCall_eq_ok (encodesAbi_withWords viem)).mp hdata
  have htake : data.toList.take 10 = (selectorOf f.signature).toList := by
    rw [htext]
    exact List.take_left' ((selectsHub_withWords viem).length f)
  have hfind : (stakeCredit.functions.find? fun f' =>
      (viem.withWords.toFunctionSelector f'.signature).toList = data.toList.take 10) = none := by
    rw [htake]
    show (stakeCredit.functions.find? fun f' =>
      (selectorOf f'.signature).toList = (selectorOf f.signature).toList) = none
    cases f <;> decide +kernel
  rw [decodeCall, Interface.decodeCall, hfind]
  rfl

/-- The answer of the StakeHub. -/
theorem nodeOf_hub {viem : Viem} {contracts : Contracts} {call : stakeHub.Call}
    {params : List AbiValue} {data : String} {v : Tuple (stakeHub.outputs call.1)}
    (hsize : (encode call.2).length ≤ 4)
    (hwords : params.mapM (AbiValue.word viem.withWords) = some (encode call.2))
    (hanswer : contracts.hub call = some v)
    (hdata : encodeFunctionCall viem.withWords call.1.signature params = .ok data) :
    nodeOf viem.withWords contracts stakingContract data = .ok (some (resultText v)) := by
  have hdecode : decodeStakeHub viem.withWords data = some call :=
    decodeCall_encodeFunctionCall (encodesAbi_withWords viem) (selectsHub_withWords viem) call
      (by omega) hwords hdata
  unfold nodeOf
  rw [decodeCall_stakeCredit_eq_none hdata]
  show (if stakingContract = stakingContract then _ else _) = _
  rw [if_pos rfl, hdecode, Option.bind_some, hanswer]
  rfl

/-! ### A validator, and an account with shares -/

/-- The account, in lower case. -/
def delegatorAddress : String := "0x343da7ff0446247ca47aa41e2a25c5bbb230ed0a"

/-- The numbers of the validator, of its credit contract and of the account. -/
def twStakingWord : AddressWord :=
  ⟨0x5c38ff8ca2b16099c086bf36546e99b13d152c4c, by norm_num [Elem.card]⟩

@[inherit_doc twStakingWord]
def twStakingCreditWord : AddressWord :=
  ⟨0xc437593d9c296bf9a5002522a86dad8a4d4af808, by norm_num [Elem.card]⟩

@[inherit_doc twStakingWord]
def delegatorWord : AddressWord :=
  ⟨0x343da7ff0446247ca47aa41e2a25c5bbb230ed0a, by norm_num [Elem.card]⟩

/-- Five shares. -/
def heldShares : Uint256 := ⟨5, by norm_num [Elem.card]⟩

/-- The table of a StakeHub with that validator only. -/
def heldTable : Tuple (stakeHub.outputs .getValidators) :=
  .array [twStakingWord] (.array [twStakingCreditWord] (.word ⟨1, by norm_num [Elem.card]⟩ .nil))

/-- The contracts: the account holds the shares with the validator. -/
def heldContracts : Contracts where
  hub := fun call => match call with
    | ⟨.getValidators, _⟩ => some heldTable
    | _ => none
  credit := fun c call => match call with
    | ⟨.balanceOf, .word d .nil⟩ =>
        if c = twStakingCreditWord ∧ d = delegatorWord then some (.word heldShares .nil) else none
    | _ => none

theorem answersFrom_heldContracts :
    (rpcOf checksumViem heldContracts).AnswersFrom heldContracts := by
  refine answersFrom_rpcOf checksums_checksumViem ?_ ?_ ?_
  · intro c hc call
    have hne : c ≠ twStakingCreditWord := by
      rintro rfl
      exact absurd hc (by decide +kernel)
    rcases call with ⟨_ | _ | _, args⟩
    · obtain ⟨d, rest, rfl⟩ := args.exists_word
      obtain rfl := rest.eq_nil
      exact if_neg fun h => hne h.1
    · rfl
    · rfl
  · rintro ⟨_ | _ | _ | _ | _, args⟩ v h
    · obtain rfl := Option.some.inj h
      norm_num [Sized, heldTable, encode, layout]
    all_goals cases h
  · rintro c ⟨_ | _ | _, args⟩ v h
    · obtain ⟨n, rest, rfl⟩ := v.exists_word
      obtain rfl := rest.eq_nil
      norm_num [Sized, encode, layout]
    all_goals cases h

/-- The shares are read. -/
theorem getShareBalance_held :
    (rpcOf checksumViem heldContracts).getShareBalance twStakingCredit delegatorAddress =
      .ok 5 := by
  have hdelegator : AddressIs checksumViem.withWords delegatorAddress delegatorWord :=
    ⟨by decide +kernel, by decide +kernel⟩
  have hwords : [AbiValue.address delegatorAddress].mapM (AbiValue.word checksumViem.withWords) =
      some (encode (Tuple.word (e := .address) delegatorWord .nil)) :=
    mapM_word_cons.mpr ⟨_, _, word_address_iff.mpr ⟨_, hdelegator, rfl⟩, rfl, rfl⟩
  have hcredit : addressWord twStakingCredit = some twStakingCreditWord := by decide +kernel
  have hanswer : heldContracts.credit twStakingCreditWord
      ⟨.balanceOf, .word delegatorWord .nil⟩ = some (.word heldShares .nil) := by
    decide +kernel
  have hread := @read_rpcOf checksumViem heldContracts _ stakeCredit StakeCreditFn.signature
    ⟨.balanceOf, .word delegatorWord .nil⟩ _ twStakingCredit "getShareBalance"
    (.word heldShares .nil) (by norm_num [Sized, encode, layout]) (by decide +kernel) hwords
    fun hdata => nodeOf_credit hcredit (Nat.le_of_ble_eq_true rfl) hwords hanswer hdata
  exact bind_eq_ok.mpr ⟨_, hread, rfl⟩

/-- The Undelegate of all shares. -/
def heldArgs : BaseSignArgs where
  transaction :=
    .undelegate
      { chain := { id := "bsc-mainnet", chainId := some "56" }, amount := 10 ^ 18,
        account := some delegatorAddress }
      true
      (some (.validator
        { id := twStaking, status := .active, name := "TW Staking", description := ""
          operatorAddress := twStaking, creditAddress := twStakingCredit }))
      none none
  fee := .gasFee 5000000000 21000 105000000000000
  nonce := .int 1

/-- The shares are asked back. -/
theorem buildUnsignedTransaction_takesHeld_all :
    ∃ unsignedTx, buildUnsignedTransaction (rpcOf checksumViem heldContracts).viem
        (rpcOf checksumViem heldContracts).toStakingRpcClient heldArgs = .ok unsignedTx ∧
      unsignedTx.value = 0 ∧ ∃ call,
        decodeStakeHub (rpcOf checksumViem heldContracts).viem unsignedTx.data = some call ∧
          AsksBack (rpcOf checksumViem heldContracts).viem heldContracts heldArgs.transaction
            call := by
  have hoperator : AddressIs checksumViem.withWords twStaking twStakingWord :=
    ⟨by decide +kernel, by decide +kernel⟩
  have hrequests : Requests checksumViem.withWords
      (rpcOf checksumViem heldContracts).toStakingRpcClient heldArgs.transaction
      (undelegateCall twStakingWord heldShares) 0 := by
    refine .undelegate (.all rfl ?_ ?_ getShareBalance_held) hoperator
    · decide +kernel
    · decide +kernel
  obtain ⟨data, hdata, -⟩ := buildCallData_of_requests (encodesAbi_withWords checksumViem)
    (selectsHub_withWords checksumViem) hrequests
  have hbuild : buildUnsignedTransaction checksumViem.withWords
      (rpcOf checksumViem heldContracts).toStakingRpcClient heldArgs =
        .ok { «to» := stakingContract, value := 0, data, chainId := chainIdNumber (some "56")
              gas := 21000, gasPrice := 5000000000, nonce := .int 1 } :=
    bind_eq_ok.mpr ⟨_, hdata, rfl⟩
  exact ⟨_, hbuild, buildUnsignedTransaction_takesHeld
    (checksums_withWords checksums_checksumViem) answersFrom_heldContracts (Or.inl rfl) hbuild⟩

/-- The validator in the API, spelled with its checksum and in lower case. -/
def heldValidators : List BNBChainValidator :=
  [twStaking, "0x5c38ff8ca2b16099c086bf36546e99b13d152c4c"].map fun operatorAddress =>
    { operatorAddress, moniker := "TW Staking", miningStatus := "", status := .active }

/-- The table is read. -/
theorem getCreditContractValidators_held :
    (rpcOf checksumViem heldContracts).getCreditContractValidators =
      .ok (getCreditContractValidators [twStaking] [twStakingCredit]) := by
  have hwords : [AbiValue.uint256 0, .uint256 100].mapM (AbiValue.word checksumViem.withWords) =
      some (encode getValidatorsCall.2) := by
    decide +kernel
  have hread := @read_rpcOf checksumViem heldContracts _ stakeHub StakeHubFn.signature
    getValidatorsCall _ stakingContract "getCreditContractValidators" heldTable
    (by norm_num [Sized, heldTable, encode, layout]) (by decide +kernel) hwords
    fun hdata => @nodeOf_hub checksumViem heldContracts getValidatorsCall _ _ heldTable
      (Nat.le_of_ble_eq_true rfl) hwords rfl hdata
  have htexts : [twStakingWord].map (rpcOf checksumViem heldContracts).addressText = [twStaking] ∧
      [twStakingCreditWord].map (rpcOf checksumViem heldContracts).addressText =
        [twStakingCredit] := by
    decide +kernel
  rw [← htexts.1, ← htexts.2]
  exact bind_eq_ok.mpr ⟨_, hread, rfl⟩

/-- The validator that is spelled with its checksum is kept. -/
theorem fetchAllValidators_sound_held :
    ∃ operatorAddrs creditAddrs total, heldContracts.hub getValidatorsCall =
        some (.array operatorAddrs (.array creditAddrs (.word total .nil))) ∧
      (operatorAddrs.length = creditAddrs.length →
        ((heldValidators.take 1).map fun v => toValidator v twStakingCredit) =
          heldValidators.filterMap fun v =>
            (hubCredit (rpcOf checksumViem heldContracts) (operatorAddrs.zip creditAddrs)
              v.operatorAddress).map (toValidator v)) := by
  have hkept : mapValidators checksumViem.withWords heldValidators
      (getCreditContractValidators [twStaking] [twStakingCredit]) =
        .ok ((heldValidators.take 1).map fun v => toValidator v twStakingCredit) := by
    decide +kernel
  refine fetchAllValidators_sound (checksums_withWords checksums_checksumViem)
    answersFrom_heldContracts ?_
  exact bind_eq_ok.mpr ⟨_, rfl, bind_eq_ok.mpr ⟨_, getCreditContractValidators_held, hkept⟩⟩

end GuardianStake.Bsc
