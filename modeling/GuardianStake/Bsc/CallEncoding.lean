import GuardianStake.Found.Abi
import GuardianStake.Bsc.SignService
import GuardianStake.Bsc.Validators

/-!
# Call data on BSC

`abi/staking-function-encoder.ts` and `buildCallData` of `services/sign-service.ts`, seen from the
contract that is called: the function it dispatches to, and the arguments it reads.

* `Viem.EncodesAbi`, `Viem.Selects` — the documented behaviour of `viem` on arguments and on
  selectors.
* `decodeCall_encodeFunctionCall` — what `encodeFunctionCall` returns is read as the call it was
  made for.
* `Requests` — the StakeHub call a transaction asks for, and the value that goes with it.
* `buildUnsignedTransaction_requests` — **what is built is read by the StakeHub as what was asked
  for**, and what is asked for is built.
-/

namespace GuardianStake.Bsc

open Sdk Found.Abi

/-! ## Contracts -/

/-- An address, and an unsigned number, as contracts have them. -/
abbrev AddressWord : Type := Fin Elem.address.card

@[inherit_doc AddressWord]
abbrev Uint256 : Type := Fin Elem.uint256.card

/-- The functions of the StakeHub that the package calls. -/
inductive StakeHubFn
  | getValidators
  | delegate
  | undelegate
  | redelegate
  | claim
  deriving DecidableEq, Repr

/-- Their signatures. Source: `abi/staking-function-encoder.ts`. -/
def StakeHubFn.signature : StakeHubFn → String
  | .getValidators => "getValidators(uint256,uint256)"
  | .delegate => "delegate(address,bool)"
  | .undelegate => "undelegate(address,uint256)"
  | .redelegate => "redelegate(address,address,uint256,bool)"
  | .claim => "claim(address,uint256)"

/-- The StakeHub. Source: `abi/staking-function-encoder.ts`, `abi/staking-function-decoder.ts`. -/
def stakeHub : Interface StakeHubFn where
  functions := [.getValidators, .delegate, .undelegate, .redelegate, .claim]
  mem_functions f := by cases f <;> simp
  inputs
    | .getValidators => [.elem .uint256, .elem .uint256]
    | .delegate => [.elem .address, .elem .bool]
    | .undelegate => [.elem .address, .elem .uint256]
    | .redelegate => [.elem .address, .elem .address, .elem .uint256, .elem .bool]
    | .claim => [.elem .address, .elem .uint256]
  outputs
    | .getValidators => [.array .address, .array .address, .elem .uint256]
    | _ => []

/-! ## Arguments -/

/-- The number an address text denotes. -/
def addressWord (address : String) : Option AddressWord :=
  (addressValue address).bind fun digits =>
    ofWord .address (digits.foldl (fun before digit => 16 * before + digit) 0)

/-- The word of an argument, where it is a value of its type. -/
def AbiValue.word (viem : Viem) : AbiValue → Option ℕ
  | .address value => if viem.isAddress value then (addressWord value).map Fin.val else none
  | .uint256 value => if 0 ≤ value ∧ value < 2 ^ 256 then some value.toNat else none
  | .bool value => some value.toNat

/-- The documented behaviour of `encodeAbiParameters` on arguments of one word: their words in hex,
where each argument is a value of its type. -/
def Viem.EncodesAbi (viem : Viem) : Prop :=
  ∀ params data, viem.encodeAbiParameters params = .ok data ↔
    ∃ words, params.mapM (AbiValue.word viem) = some words ∧
      data.toList = '0' :: 'x' :: words.flatMap (hexDigits 64)

/-- The selectors of functions: `0x` and four bytes, no two of them alike. -/
structure Viem.Selects {F : Type} (viem : Viem) (signature : F → String) : Prop where
  length : ∀ f, (viem.toFunctionSelector (signature f)).toList.length = 10
  injective : Function.Injective fun f => viem.toFunctionSelector (signature f)

/-- What a contract makes of call data. -/
def decodeCall {F : Type} (viem : Viem) (I : Interface F) (signature : F → String)
    (data : String) : Option I.Call :=
  I.decodeCall (fun f => (viem.toFunctionSelector (signature f)).toList) 10 data.toList

section arguments

variable {viem : Viem}

/-- The word of a number argument. -/
theorem word_uint256_eq_some {value : ℤ} {w : ℕ} :
    (AbiValue.uint256 value).word viem = some w ↔
      ∃ n : Uint256, value = (n.val : ℤ) ∧ w = n.val := by
  simp only [AbiValue.word]
  constructor
  · intro h
    split_ifs at h with hrange
    obtain rfl := Option.some.inj h
    refine ⟨⟨value.toNat, ?_⟩, (Int.toNat_of_nonneg hrange.1).symm, rfl⟩
    show value.toNat < 2 ^ 256
    omega
  · rintro ⟨n, rfl, rfl⟩
    have hn : n.val < 2 ^ 256 := n.isLt
    have hn' : (n.val : ℤ) < 2 ^ 256 := by exact_mod_cast hn
    rw [if_pos ⟨Int.natCast_nonneg _, hn'⟩, Int.toNat_natCast]

/-- A call is encoded iff each argument is a value of its type. -/
theorem encodeFunctionCall_eq_ok (hviem : viem.EncodesAbi) {functionSignature data : String}
    {params : List AbiValue} :
    encodeFunctionCall viem functionSignature params = .ok data ↔
      ∃ words, params.mapM (AbiValue.word viem) = some words ∧
        data.toList =
          (viem.toFunctionSelector functionSignature).toList ++ words.flatMap (hexDigits 64) := by
  unfold encodeFunctionCall
  split_ifs with hparams
  · obtain rfl := List.eq_nil_of_length_eq_zero hparams
    simp [pure, Except.pure, String.ext_iff, eq_comm]
  · rw [bind_eq_ok]
    constructor
    · rintro ⟨encodedArgs, hencode, hdata⟩
      obtain ⟨words, hwords, htext⟩ := (hviem _ _).mp hencode
      refine ⟨words, hwords, ?_⟩
      rw [← Except.ok.inj hdata, htext]
      simp
    · rintro ⟨words, hwords, htext⟩
      refine ⟨String.ofList ('0' :: 'x' :: words.flatMap (hexDigits 64)),
        (hviem _ _).mpr ⟨words, hwords, by simp⟩, ?_⟩
      refine congrArg Except.ok (String.ext ?_)
      rw [htext]
      simp

/-- **What is encoded is read as the call it was made for.** -/
theorem decodeCall_encodeFunctionCall (hviem : viem.EncodesAbi) {F : Type} {I : Interface F}
    {signature : F → String} (hselects : viem.Selects signature) (call : I.Call)
    {params : List AbiValue} {data : String} (hsize : 32 * (encode call.2).length < 2 ^ 256)
    (hwords : params.mapM (AbiValue.word viem) = some (encode call.2))
    (h : encodeFunctionCall viem (signature call.1) params = .ok data) :
    decodeCall viem I signature data = some call := by
  obtain ⟨words, hwords', htext⟩ := (encodeFunctionCall_eq_ok hviem).mp h
  obtain rfl := Option.some.inj (hwords'.symm.trans hwords)
  rw [decodeCall, htext]
  refine I.decodeCall_encodeCall hselects.length ?_ call hsize
  intro f f' hf
  exact hselects.injective (String.ext hf)

end arguments

/-! ## StakeHub calls -/

/-- The StakeHub calls the package makes to stake; vote power is never delegated. -/
def delegateCall (operator : AddressWord) : stakeHub.Call :=
  ⟨.delegate, .word operator (.word (0 : Fin 2) .nil)⟩

@[inherit_doc delegateCall]
def undelegateCall (operator : AddressWord) (shares : Uint256) : stakeHub.Call :=
  ⟨.undelegate, .word operator (.word shares .nil)⟩

@[inherit_doc delegateCall]
def redelegateCall (src dst : AddressWord) (shares : Uint256) : stakeHub.Call :=
  ⟨.redelegate, .word src (.word dst (.word shares (.word (0 : Fin 2) .nil)))⟩

@[inherit_doc delegateCall]
def claimCall (operator : AddressWord) (requestNumber : Uint256) : stakeHub.Call :=
  ⟨.claim, .word operator (.word requestNumber .nil)⟩

/-- What the StakeHub makes of call data. -/
def decodeStakeHub (viem : Viem) (data : String) : Option stakeHub.Call :=
  decodeCall viem stakeHub StakeHubFn.signature data

/-- Call data stand for calls: whatever is encoded is read by the StakeHub as one of them, and each
of them is encoded. -/
structure EncodesAs (viem : Viem) (encoded : Result String) (calls : stakeHub.Call → Prop) :
    Prop where
  sound : ∀ {data}, encoded = .ok data →
    ∃ call, calls call ∧ decodeStakeHub viem data = some call
  complete : ∀ {call}, calls call →
    ∃ data, encoded = .ok data ∧ decodeStakeHub viem data = some call

/-- An address text that is accepted, and its number. -/
def AddressIs (viem : Viem) (address : String) (a : AddressWord) : Prop :=
  viem.isAddress address = true ∧ addressWord address = some a

section encoders

variable {viem : Viem}

/-- The word of an address argument. -/
theorem word_address_iff {address : String} {w : ℕ} :
    (AbiValue.address address).word viem = some w ↔
      ∃ a : AddressWord, AddressIs viem address a ∧ w = a.val := by
  simp only [AbiValue.word, AddressIs]
  split_ifs with h
  · simp [h, eq_comm]
  · simp [h]

/-- The word of a truth value. -/
theorem word_bool_iff {value : Bool} {w : ℕ} :
    (AbiValue.bool value).word viem = some w ↔ w = value.toNat := by
  simp [AbiValue.word, eq_comm]

theorem mapM_word_nil {words : List ℕ} :
    ([] : List AbiValue).mapM (AbiValue.word viem) = some words ↔ words = [] := by
  simp [eq_comm]

/-- The words of arguments, one by one. -/
theorem mapM_word_cons {param : AbiValue} {params : List AbiValue} {words : List ℕ} :
    (param :: params).mapM (AbiValue.word viem) = some words ↔
      ∃ w ws, param.word viem = some w ∧ params.mapM (AbiValue.word viem) = some ws ∧
        w :: ws = words := by
  simp [List.mapM_cons, Option.bind_eq_some_iff]

/-- The words of an operator and a number. -/
theorem mapM_word_operator_number {operatorAddress : String} {number : ℤ} {words : List ℕ} :
    [AbiValue.address operatorAddress, .uint256 number].mapM (AbiValue.word viem) = some words ↔
      ∃ args : AddressWord × Uint256, (AddressIs viem operatorAddress args.1 ∧
        number = (args.2.val : ℤ)) ∧ words = [args.1.val, args.2.val] := by
  simp only [mapM_word_cons, mapM_word_nil, word_address_iff, word_uint256_eq_some]
  constructor
  · rintro ⟨_, _, ⟨operator, hoperator, rfl⟩, ⟨_, _, ⟨n, rfl, rfl⟩, rfl, rfl⟩, rfl⟩
    exact ⟨(operator, n), ⟨hoperator, rfl⟩, rfl⟩
  · rintro ⟨⟨operator, n⟩, ⟨hoperator, rfl⟩, rfl⟩
    exact ⟨_, _, ⟨operator, hoperator, rfl⟩, ⟨_, _, ⟨n, rfl, rfl⟩, rfl, rfl⟩, rfl⟩

variable (hviem : viem.EncodesAbi) (hselects : viem.Selects StakeHubFn.signature)
include hviem hselects

/-- **Calls are encoded iff their arguments are values of their types**, and are read as those
calls. -/
theorem encodesAs_of_words {ι : Type} (callOf : ι → stakeHub.Call) {P : ι → Prop} {f : StakeHubFn}
    {params : List AbiValue} (hfn : ∀ i, (callOf i).1 = f)
    (hsize : ∀ i, (encode (callOf i).2).length ≤ 4)
    (hwords : ∀ words, params.mapM (AbiValue.word viem) = some words ↔
      ∃ i, P i ∧ words = encode (callOf i).2) :
    EncodesAs viem (encodeFunctionCall viem f.signature params)
      fun call => ∃ i, P i ∧ call = callOf i := by
  have hread : ∀ {i data}, P i → encodeFunctionCall viem f.signature params = .ok data →
      decodeStakeHub viem data = some (callOf i) := by
    intro i data hi hdata
    obtain rfl := hfn i
    have hsize' : 32 * (encode (callOf i).2).length < 2 ^ 256 := by
      have := hsize i
      omega
    exact decodeCall_encodeFunctionCall hviem hselects (callOf i) hsize'
      ((hwords _).mpr ⟨i, hi, rfl⟩) hdata
  constructor
  · intro data hdata
    obtain ⟨words, hparams, -⟩ := (encodeFunctionCall_eq_ok hviem).mp hdata
    obtain ⟨i, hi, -⟩ := (hwords words).mp hparams
    exact ⟨callOf i, ⟨i, hi, rfl⟩, hread hi hdata⟩
  · rintro call ⟨i, hi, rfl⟩
    have hparams := (hwords _).mpr ⟨i, hi, rfl⟩
    have hdata : encodeFunctionCall viem f.signature params =
        .ok (String.ofList ((viem.toFunctionSelector f.signature).toList ++
          (encode (callOf i).2).flatMap (hexDigits 64))) :=
      (encodeFunctionCall_eq_ok hviem).mpr ⟨_, hparams, String.toList_ofList⟩
    exact ⟨_, hdata, hread hi hdata⟩

theorem encodeDelegate_encodesAs (operatorAddress : String) :
    EncodesAs viem (encodeDelegate viem operatorAddress) fun call =>
      ∃ operator, AddressIs viem operatorAddress operator ∧ call = delegateCall operator := by
  refine encodesAs_of_words hviem hselects delegateCall (fun _ => rfl)
    (fun _ => Nat.le_of_ble_eq_true rfl) fun words => ?_
  simp only [mapM_word_cons, mapM_word_nil, word_address_iff, word_bool_iff]
  constructor
  · rintro ⟨_, _, ⟨operator, hoperator, rfl⟩, ⟨_, _, rfl, rfl, rfl⟩, rfl⟩
    exact ⟨operator, hoperator, rfl⟩
  · rintro ⟨operator, hoperator, rfl⟩
    exact ⟨_, _, ⟨operator, hoperator, rfl⟩, ⟨_, _, rfl, rfl, rfl⟩, rfl⟩

theorem encodeUndelegate_encodesAs (operatorAddress : String) (shares : ℤ) :
    EncodesAs viem (encodeUndelegate viem operatorAddress shares) fun call =>
      ∃ args : AddressWord × Uint256, (AddressIs viem operatorAddress args.1 ∧
        shares = (args.2.val : ℤ)) ∧ call = undelegateCall args.1 args.2 :=
  encodesAs_of_words hviem hselects
    (fun args : AddressWord × Uint256 => undelegateCall args.1 args.2) (fun _ => rfl)
    (fun _ => Nat.le_of_ble_eq_true rfl) fun _ => mapM_word_operator_number

theorem encodeClaim_encodesAs (operatorAddress : String) (index : ℤ) :
    EncodesAs viem (encodeClaim viem operatorAddress index) fun call =>
      ∃ args : AddressWord × Uint256, (AddressIs viem operatorAddress args.1 ∧
        index = (args.2.val : ℤ)) ∧ call = claimCall args.1 args.2 :=
  encodesAs_of_words hviem hselects
    (fun args : AddressWord × Uint256 => claimCall args.1 args.2) (fun _ => rfl)
    (fun _ => Nat.le_of_ble_eq_true rfl) fun _ => mapM_word_operator_number

theorem encodeRedelegate_encodesAs (fromOperatorAddress toOperatorAddress : String) (shares : ℤ) :
    EncodesAs viem (encodeRedelegate viem fromOperatorAddress toOperatorAddress shares) fun call =>
      ∃ args : AddressWord × AddressWord × Uint256,
        (AddressIs viem fromOperatorAddress args.1 ∧ AddressIs viem toOperatorAddress args.2.1 ∧
          shares = (args.2.2.val : ℤ)) ∧ call = redelegateCall args.1 args.2.1 args.2.2 := by
  refine encodesAs_of_words hviem hselects
    (fun args : AddressWord × AddressWord × Uint256 => redelegateCall args.1 args.2.1 args.2.2)
    (fun _ => rfl) (fun _ => Nat.le_of_ble_eq_true rfl) fun words => ?_
  simp only [mapM_word_cons, mapM_word_nil, word_address_iff, word_uint256_eq_some, word_bool_iff]
  constructor
  · rintro ⟨_, _, ⟨src, hsrc, rfl⟩, ⟨_, _, ⟨dst, hdst, rfl⟩, ⟨_, _, ⟨n, rfl, rfl⟩,
      ⟨_, _, rfl, rfl, rfl⟩, rfl⟩, rfl⟩, rfl⟩
    exact ⟨(src, dst, n), ⟨hsrc, hdst, rfl⟩, rfl⟩
  · rintro ⟨⟨src, dst, n⟩, ⟨hsrc, hdst, rfl⟩, rfl⟩
    exact ⟨_, _, ⟨src, hsrc, rfl⟩, ⟨_, _, ⟨dst, hdst, rfl⟩, ⟨_, _, ⟨n, rfl, rfl⟩,
      ⟨_, _, rfl, rfl, rfl⟩, rfl⟩, rfl⟩, rfl⟩

end encoders

/-! ## What is asked for -/

section requests

variable (viem : Viem) (rpc : StakingRpcClient)

/-- The shares to take from a validator: all that the account holds, or what an amount is worth. -/
inductive TakesShares (base : BaseTransaction) (validator : Validator) (shares : Uint256) :
    Bool → Prop
  | all {account : String} (haccount : base.account = some account)
      (hdelegator : viem.isAddress account = true)
      (hcredit : viem.isAddress validator.creditAddress = true)
      (hread : rpc.getShareBalance validator.creditAddress account = .ok shares.val) :
      TakesShares base validator shares true
  | worth (hcredit : viem.isAddress validator.creditAddress = true)
      (hread : rpc.getSharesByPooledBNBData validator.creditAddress base.amount =
        .ok shares.val) :
      TakesShares base validator shares false

/-- The StakeHub call a transaction asks for, with the value it sends. -/
inductive Requests : Transaction → stakeHub.Call → ℤ → Prop
  | delegate {base : BaseTransaction} {isMaxAmount : Bool} {validator : ValidatorRef}
      {resource : Option String} {operator : AddressWord}
      (hamount : minDelegationAmount ≤ base.amount)
      (hoperator : AddressIs viem validator.address operator) :
      Requests (.delegate base isMaxAmount (some validator) resource) (delegateCall operator)
        base.amount
  | undelegate {base : BaseTransaction} {isMaxAmount : Bool} {validator : Validator}
      {resource stakeAccount : Option String} {operator : AddressWord} {shares : Uint256}
      (hshares : TakesShares viem rpc base validator shares isMaxAmount)
      (hoperator : AddressIs viem validator.operatorAddress operator) :
      Requests (.undelegate base isMaxAmount (some (.validator validator)) resource stakeAccount)
        (undelegateCall operator shares) 0
  | redelegate {base : BaseTransaction} {isMaxAmount : Bool} {fromValidator : Validator}
      {toValidator : ValidatorRef} {src dst : AddressWord} {shares : Uint256}
      (hshares : TakesShares viem rpc base fromValidator shares isMaxAmount)
      (hsrc : AddressIs viem fromValidator.operatorAddress src)
      (hdst : AddressIs viem toValidator.address dst) :
      Requests (.redelegate base isMaxAmount (.validator fromValidator) toValidator)
        (redelegateCall src dst shares) 0
  | claim {base : BaseTransaction} {validator : ValidatorRef} {stakeAccount : Option String}
      {operator : AddressWord} {requestNumber : Uint256}
      (hoperator : AddressIs viem validator.address operator) :
      Requests (.claimDelegate base (some validator) (some (requestNumber.val : ℤ)) stakeAccount)
        (claimCall operator requestNumber) 0

end requests

section built

variable {viem : Viem} {rpc : StakingRpcClient}

/-- The guard passes the validator on. -/
theorem assertValidator_iff {transaction : Transaction} {v : ValidatorRef} :
    assertValidator transaction = .ok v ↔ transaction.validator = some v := by
  unfold assertValidator
  cases transaction.validator <;> simp

/-- The address of a validator, where it is accepted. -/
theorem getValidatorAddress_iff {validator : ValidatorRef} {address : String} :
    getValidatorAddress viem validator = .ok address ↔
      viem.isAddress validator.address = true ∧ validator.address = address :=
  parseEvmAddress_eq_ok

/-- **Shares to take are what is read**, where that is a number of 256 bits. -/
theorem bnbToShares_iff {base : BaseTransaction} {isMaxAmount : Bool} {validator : ValidatorRef}
    {shares : Uint256} :
    bnbToShares viem rpc base isMaxAmount validator = .ok (shares.val : ℤ) ↔
      ∃ v, validator = .validator v ∧ TakesShares viem rpc base v shares isMaxAmount := by
  constructor
  · intro h
    cases validator with
    | operatorAddress _ => cases h
    | validator v =>
        refine ⟨v, rfl, ?_⟩
        obtain ⟨creditAddress, hparsed, h⟩ := bind_eq_ok.mp h
        obtain ⟨hcredit, rfl⟩ := parseEvmAddress_eq_ok.mp hparsed
        split_ifs at h with hmax
        · rw [hmax]
          cases haccount : base.account with
          | none => simp [haccount] at h
          | some account =>
              rw [haccount] at h
              obtain ⟨delegator, hparsed', hread⟩ := bind_eq_ok.mp h
              obtain ⟨hdelegator, rfl⟩ := parseEvmAddress_eq_ok.mp hparsed'
              exact .all haccount hdelegator hcredit hread
        · rw [Bool.not_eq_true] at hmax
          rw [hmax]
          exact .worth hcredit h
  · rintro ⟨v, rfl, h⟩
    cases h with
    | all haccount hdelegator hcredit hread =>
        simp only [bnbToShares, bind, Except.bind, parseEvmAddress_eq_ok.mpr ⟨hcredit, rfl⟩,
          parseEvmAddress_eq_ok.mpr ⟨hdelegator, rfl⟩, haccount, if_true]
        exact hread
    | worth hcredit hread =>
        simp only [bnbToShares, bind, Except.bind, parseEvmAddress_eq_ok.mpr ⟨hcredit, rfl⟩]
        exact hread

section main

variable (hviem : viem.EncodesAbi) (hselects : viem.Selects StakeHubFn.signature)
include hviem hselects

/-- **Call data that are built are read as what was asked for.** -/
theorem requests_of_buildCallData {transaction : Transaction} {callData : CallData}
    (h : buildCallData viem rpc transaction = .ok callData) :
    ∃ call, Requests viem rpc transaction call callData.amount ∧
      decodeStakeHub viem callData.data = some call := by
  cases transaction with
  | delegate base isMaxAmount validator resource =>
      unfold buildCallData at h
      rw [guard_eq_ok] at h
      obtain ⟨hamount, h⟩ := h
      obtain ⟨v, hv, h⟩ := bind_eq_ok.mp h
      obtain ⟨operatorAddress, hoperator, h⟩ := bind_eq_ok.mp h
      obtain ⟨data, hdata, h⟩ := bind_eq_ok.mp h
      obtain rfl := Except.ok.inj h
      obtain rfl : validator = some v := assertValidator_iff.mp hv
      obtain ⟨-, rfl⟩ := getValidatorAddress_iff.mp hoperator
      obtain ⟨_, ⟨operator, hoperator, rfl⟩, hdecode⟩ :=
        (encodeDelegate_encodesAs hviem hselects _).sound hdata
      exact ⟨_, .delegate (not_lt.mp hamount) hoperator, hdecode⟩
  | undelegate base isMaxAmount validator resource stakeAccount =>
      obtain ⟨v, hv, h⟩ := bind_eq_ok.mp h
      obtain ⟨shares, hshares, h⟩ := bind_eq_ok.mp h
      obtain ⟨operatorAddress, hoperator, h⟩ := bind_eq_ok.mp h
      obtain ⟨data, hdata, h⟩ := bind_eq_ok.mp h
      obtain rfl := Except.ok.inj h
      obtain rfl : validator = some v := assertValidator_iff.mp hv
      obtain ⟨-, rfl⟩ := getValidatorAddress_iff.mp hoperator
      obtain ⟨_, ⟨⟨operator, n⟩, ⟨hoperator, rfl⟩, rfl⟩, hdecode⟩ :=
        (encodeUndelegate_encodesAs hviem hselects _ _).sound hdata
      obtain ⟨v, rfl, htakes⟩ := bnbToShares_iff.mp hshares
      exact ⟨_, .undelegate htakes hoperator, hdecode⟩
  | redelegate base isMaxAmount fromValidator toValidator =>
      obtain ⟨shares, hshares, h⟩ := bind_eq_ok.mp h
      obtain ⟨fromAddress, hfrom, h⟩ := bind_eq_ok.mp h
      obtain ⟨toAddress, hto, h⟩ := bind_eq_ok.mp h
      obtain ⟨data, hdata, h⟩ := bind_eq_ok.mp h
      obtain rfl := Except.ok.inj h
      obtain ⟨-, rfl⟩ := getValidatorAddress_iff.mp hfrom
      obtain ⟨-, rfl⟩ := getValidatorAddress_iff.mp hto
      obtain ⟨_, ⟨⟨src, dst, n⟩, ⟨hsrc, hdst, rfl⟩, rfl⟩, hdecode⟩ :=
        (encodeRedelegate_encodesAs hviem hselects _ _ _).sound hdata
      obtain ⟨v, rfl, htakes⟩ := bnbToShares_iff.mp hshares
      exact ⟨_, .redelegate htakes hsrc hdst, hdecode⟩
  | claimDelegate base validator index stakeAccount =>
      obtain ⟨v, hv, hindex⟩ := bind_eq_ok.mp h
      obtain rfl : validator = some v := assertValidator_iff.mp hv
      cases index with
      | none => cases hindex
      | some index =>
          obtain ⟨operatorAddress, hoperator, hrest⟩ := bind_eq_ok.mp hindex
          obtain ⟨data, hdata, hrest⟩ := bind_eq_ok.mp hrest
          obtain rfl := Except.ok.inj hrest
          obtain ⟨-, rfl⟩ := getValidatorAddress_iff.mp hoperator
          obtain ⟨_, ⟨⟨operator, n⟩, ⟨hoperator, rfl⟩, rfl⟩, hdecode⟩ :=
            (encodeClaim_encodesAs hviem hselects _ _).sound hdata
          exact ⟨_, .claim hoperator, hdecode⟩
  | claimRewards base validator => cases h
  | vote base validator => cases h

/-- **What is asked for is built**, as call data that are read as just that. -/
theorem buildCallData_of_requests {transaction : Transaction} {call : stakeHub.Call} {amount : ℤ}
    (h : Requests viem rpc transaction call amount) :
    ∃ data, buildCallData viem rpc transaction = .ok { data, amount } ∧
      decodeStakeHub viem data = some call := by
  cases h with
  | @delegate base isMaxAmount validator resource operator hamount hoperator =>
      obtain ⟨data, hdata, hdecode⟩ := (encodeDelegate_encodesAs hviem hselects _).complete
        ⟨operator, hoperator, rfl⟩
      refine ⟨data, ?_, hdecode⟩
      unfold buildCallData
      rw [guard_eq_ok]
      have haddress := getValidatorAddress_iff.mpr ⟨hoperator.1, rfl⟩
      exact ⟨not_lt.mpr hamount, bind_eq_ok.mpr ⟨validator, rfl,
        bind_eq_ok.mpr ⟨_, haddress, bind_eq_ok.mpr ⟨data, hdata, rfl⟩⟩⟩⟩
  | @undelegate base isMaxAmount validator resource stakeAccount operator shares hshares hoperator =>
      obtain ⟨data, hdata, hdecode⟩ := (encodeUndelegate_encodesAs hviem hselects _ _).complete
        ⟨(operator, shares), ⟨hoperator, rfl⟩, rfl⟩
      have hread := bnbToShares_iff.mpr ⟨validator, rfl, hshares⟩
      have haddress := (@getValidatorAddress_iff viem (.validator validator) _).mpr
        ⟨hoperator.1, rfl⟩
      exact ⟨data, bind_eq_ok.mpr ⟨.validator validator, rfl, bind_eq_ok.mpr ⟨_, hread,
        bind_eq_ok.mpr ⟨_, haddress, bind_eq_ok.mpr ⟨data, hdata, rfl⟩⟩⟩⟩, hdecode⟩
  | @redelegate base isMaxAmount fromValidator toValidator src dst shares hshares hsrc hdst =>
      obtain ⟨data, hdata, hdecode⟩ := (encodeRedelegate_encodesAs hviem hselects _ _ _).complete
        ⟨(src, dst, shares), ⟨hsrc, hdst, rfl⟩, rfl⟩
      have hread := bnbToShares_iff.mpr ⟨fromValidator, rfl, hshares⟩
      have hfrom := (@getValidatorAddress_iff viem (.validator fromValidator) _).mpr ⟨hsrc.1, rfl⟩
      have hto := getValidatorAddress_iff.mpr ⟨hdst.1, rfl⟩
      exact ⟨data, bind_eq_ok.mpr ⟨_, hread, bind_eq_ok.mpr ⟨_, hfrom, bind_eq_ok.mpr ⟨_, hto,
        bind_eq_ok.mpr ⟨data, hdata, rfl⟩⟩⟩⟩, hdecode⟩
  | @claim base validator stakeAccount operator requestNumber hoperator =>
      obtain ⟨data, hdata, hdecode⟩ := (encodeClaim_encodesAs hviem hselects _ _).complete
        ⟨(operator, requestNumber), ⟨hoperator, rfl⟩, rfl⟩
      have haddress := getValidatorAddress_iff.mpr ⟨hoperator.1, rfl⟩
      exact ⟨data, bind_eq_ok.mpr ⟨validator, rfl,
        bind_eq_ok.mpr ⟨_, haddress, bind_eq_ok.mpr ⟨data, hdata, rfl⟩⟩⟩, hdecode⟩

/-- **What is built is read by the StakeHub as what was asked for**, and what is asked for is
built. -/
theorem buildUnsignedTransaction_requests {signArgs : BaseSignArgs} {gasPrice gasLimit total : ℤ}
    (hfee : signArgs.fee = .gasFee gasPrice gasLimit total) :
    (∀ unsignedTx, buildUnsignedTransaction viem rpc signArgs = .ok unsignedTx →
        unsignedTx.to = stakingContract ∧ ∃ call,
          Requests viem rpc signArgs.transaction call unsignedTx.value ∧
            decodeStakeHub viem unsignedTx.data = some call) ∧
      ∀ call value, Requests viem rpc signArgs.transaction call value →
        ∃ unsignedTx, buildUnsignedTransaction viem rpc signArgs = .ok unsignedTx ∧
          unsignedTx.to = stakingContract ∧ unsignedTx.value = value ∧
            decodeStakeHub viem unsignedTx.data = some call := by
  have hbase (callData : CallData) :
      buildBaseTransaction signArgs callData.amount callData.data =
        .ok { «to» := stakingContract, value := callData.amount, data := callData.data
              chainId := chainIdNumber signArgs.transaction.base.chain.chainId
              gas := gasLimit, gasPrice, nonce := signArgs.nonce } := by
    rw [buildBaseTransaction, hfee]
  constructor
  · intro unsignedTx h
    obtain ⟨callData, hcallData, h⟩ := bind_eq_ok.mp h
    obtain rfl := Except.ok.inj ((hbase callData).symm.trans h)
    exact ⟨rfl, requests_of_buildCallData hviem hselects hcallData⟩
  · intro call value h
    obtain ⟨data, hcallData, hdecode⟩ := buildCallData_of_requests hviem hselects h
    exact ⟨_, bind_eq_ok.mpr ⟨_, hcallData, hbase { data, amount := value }⟩, rfl, rfl, hdecode⟩

end main

end built

/-! ### An Undelegate of all shares -/

/-- The selectors of the functions that are called. -/
def selectorOf (functionSignature : String) : String :=
  if functionSignature = "getValidators(uint256,uint256)" then "0xbff02e20"
  else if functionSignature = "delegate(address,bool)" then "0x982ef0a7"
  else if functionSignature = "undelegate(address,uint256)" then "0x4d99dd16"
  else if functionSignature = "redelegate(address,address,uint256,bool)" then "0x59491871"
  else if functionSignature = "claim(address,uint256)" then "0xaad3ec96"
  else if functionSignature = "balanceOf(address)" then "0x70a08231"
  else if functionSignature = "getSharesByPooledBNB(uint256)" then "0x647df759"
  else if functionSignature = "unbondRequest(address,uint256)" then "0xd241c1ea"
  else ""

/-- `viem` with these selectors, encoding words. -/
def Viem.withWords (viem : Viem) : Viem where
  __ := viem
  toFunctionSelector := selectorOf
  encodeAbiParameters := fun params =>
    match params.mapM (AbiValue.word viem) with
    | some words => .ok (String.ofList ('0' :: 'x' :: words.flatMap (hexDigits 64)))
    | none => .error (.foreign "not a value of its type")

theorem encodesAbi_withWords (viem : Viem) : viem.withWords.EncodesAbi := by
  intro params data
  have hword : AbiValue.word viem.withWords = AbiValue.word viem := by
    funext param
    cases param <;> rfl
  rw [hword]
  show (match params.mapM (AbiValue.word viem) with
    | some words => .ok (String.ofList ('0' :: 'x' :: words.flatMap (hexDigits 64)))
    | none => .error (Thrown.foreign "not a value of its type")) = Except.ok data ↔ _
  cases params.mapM (AbiValue.word viem) with
  | none => simp
  | some words => simp [String.ext_iff, eq_comm]

theorem selectsHub_withWords (viem : Viem) : viem.withWords.Selects StakeHubFn.signature := by
  constructor
  · intro f
    show (selectorOf f.signature).toList.length = 10
    cases f <;> decide +kernel
  · intro f f' h
    have heq : selectorOf f.signature = selectorOf f'.signature := h
    cases f <;> cases f' <;> first | rfl | exact absurd heq (by decide +kernel)

/-- `viem` on the vector of a Delegate, encoding words. -/
def wordsViem : Viem := delegateViem.withWords

/-- The account holds 5 shares. -/
def fiveShares : StakingRpcClient where
  getSharesByPooledBNBData := fun _ _ => .ok 0
  getShareBalance := fun creditContract delegator =>
    .ok (if creditContract = otherAddress ∧ delegator = signerAddress then 5 else 0)

/-- The Undelegate, from a validator with a credit contract. -/
def undelegateAllArgs : BaseSignArgs where
  transaction :=
    .undelegate
      { chain := { id := "bsc-mainnet", chainId := some "56" }, amount := 10 ^ 18,
        account := some signerAddress }
      true
      (some (.validator
        { id := operator, status := .active, name := "", description := ""
          operatorAddress := operator, creditAddress := otherAddress }))
      none none
  fee := .gasFee 5000000000 21000 105000000000000
  nonce := .int 1

/-- The 5 shares are asked back from the validator, and nothing is sent. -/
theorem buildUnsignedTransaction_undelegateAll :
    ∃ unsignedTx, buildUnsignedTransaction wordsViem fiveShares undelegateAllArgs =
        .ok unsignedTx ∧
      unsignedTx.to = stakingContract ∧ unsignedTx.value = 0 ∧
        decodeStakeHub wordsViem unsignedTx.data = some (undelegateCall
          ⟨0x773760b0708a5cc369c346993a0c225d8e4043b1, by norm_num [Elem.card]⟩
          ⟨5, by norm_num [Elem.card]⟩) := by
  have hviem : wordsViem.EncodesAbi := encodesAbi_withWords delegateViem
  have hselects : wordsViem.Selects StakeHubFn.signature := selectsHub_withWords delegateViem
  refine (buildUnsignedTransaction_requests hviem hselects rfl).2 _ _ ?_
  refine .undelegate (.all rfl ?_ ?_ ?_) ⟨?_, ?_⟩
  all_goals decide +kernel

end GuardianStake.Bsc
