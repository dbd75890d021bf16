import GuardianStake.Found.NormalForm
import GuardianStake.Sdk.IpLiteral
import GuardianStake.Bsc.StakingService

/-!
# Matching validators with credit contracts

`mapValidators` and `fetchAllValidators` of `services/staking-service.ts`, `getBalances` of
`services/balance-service.ts`. The validators come from an API, the credit contracts from a
contract; the operator addresses they share may be spelled differently.

* `addressValue` — the 20 bytes an address text denotes; `Viem.Checksums` — what `viem` makes of
  the texts of one value.
* `mapValidators_eq` — which validators are kept: those that are found as they are spelled.
* `mapValidators_byValue_iff` — **when validators are matched by value**, and no position is lost:
  where each one in the contract is spelled with its checksum.

The rates, counts and images that are only displayed are left out.
-/

namespace GuardianStake.Bsc

open Sdk Found

/-! ## Address texts -/

/-- The 20 bytes an address text `0x…` of 40 hex digits denotes, as their 40 half bytes. -/
def addressValue (s : String) : Option (List ℕ) :=
  match s.toList with
  | '0' :: 'x' :: digits => if digits.length = 40 then digits.mapM (digitValue 16) else none
  | _ => none

/-- The documented behaviour of `viem` on address texts: `getAddress` gives the checksummed text of
an address, and `isAddress` takes it and the text in lower case. -/
structure Viem.Checksums (viem : Viem) : Prop where
  isAddress_iff : ∀ s, viem.isAddress s = true ↔
    (addressValue s).isSome = true ∧
      (s.toList.map Char.toLower = s.toList ∨ viem.getAddress s = s)
  normalForm : NormalForm addressValue viem.getAddress

/-! ## The code -/

/-- The `status` of a validator in the API. -/
inductive BNBValidatorStatus
  | active
  | inactive
  | jailed
  deriving DecidableEq, Repr

/-- Source: `rpc/bnb-rpc-types.ts`, `BNBChainValidator`. -/
structure BNBChainValidator where
  operatorAddress : String
  moniker : String
  miningStatus : String
  status : BNBValidatorStatus
  deriving DecidableEq, Repr

/-- The map of operators to credit contracts; a value is `undefined` where none was decoded. -/
abbrev CreditContracts := JsMap String (Option String)

/-- Source: `rpc/staking-rpc-client.ts`, `getCreditContractValidators`, over the decoded arrays. -/
def getCreditContractValidators (operatorAddresses creditAddresses : List String) :
    CreditContracts :=
  operatorAddresses.zipIdx.foldl (fun m (addr, i) => m.set addr creditAddresses[i]?) JsMap.empty

/-- Source: `services/staking-service.ts`, `getValidatorStatus`. -/
def getValidatorStatus (v : BNBChainValidator) : ValidatorStatus :=
  match v.status with
  | .inactive => .inactive
  | .jailed => .jailed
  | .active => .active

section code

variable (viem : Viem)

/-- The callback of `mapValidators`. -/
def mapValidator (contractValidators : CreditContracts) (bnbValidator : BNBChainValidator) :
    Result (List Validator) := do
  let operatorAddress ← parseEvmAddress viem bnbValidator.operatorAddress
  match ((contractValidators.get operatorAddress).bind id).filter (· ≠ "") with
  | none => return []
  | some creditAddress =>
      let creditAddress ← parseEvmAddress viem creditAddress
      return [{ id := operatorAddress, status := getValidatorStatus bnbValidator
                name := bnbValidator.moniker, description := bnbValidator.miningStatus
                operatorAddress, creditAddress }]

/-- Source: `services/staking-service.ts`, `mapValidators`. -/
def mapValidators (bnbValidators : List BNBChainValidator)
    (contractValidators : CreditContracts) : Result (List Validator) := do
  let lists ← bnbValidators.mapM (mapValidator viem contractValidators)
  return lists.flatten

/-- Source: `services/staking-service.ts`, `fetchAllValidators`; `cached` is what is cached. -/
def fetchAllValidators (cached : Option (List Validator))
    (getValidators : Result (List BNBChainValidator))
    (getCreditContractValidators : Result CreditContracts) : Result (List Validator) :=
  match cached with
  | some validators => .ok validators
  | none => do
      let bnbValidators ← getValidators
      let contractValidators ← getCreditContractValidators
      mapValidators viem bnbValidators contractValidators

end code

/-- The accumulator of `getPendingAndClaimableBalances`. -/
structure StakingBalances where
  stakedBalance : ℤ
  pendingBalance : ℤ
  claimableBalance : ℤ
  deriving DecidableEq, Repr

/-- The reducer of `getPendingAndClaimableBalances`. -/
def StakingBalances.add (acc : StakingBalances) (d : Delegation) : StakingBalances :=
  match d.status with
  | .pending => { acc with pendingBalance := acc.pendingBalance + d.amount }
  | .claimable => { acc with claimableBalance := acc.claimableBalance + d.amount }
  | .active | .inactive => { acc with stakedBalance := acc.stakedBalance + d.amount }
  | .frozen => acc

/-- Source: `services/balance-service.ts`, `getPendingAndClaimableBalances`. -/
def stakingBalances (delegations : List Delegation) : StakingBalances :=
  delegations.foldl StakingBalances.add
    { stakedBalance := 0, pendingBalance := 0, claimableBalance := 0 }

/-- The balances `getBalances` returns. -/
def balancesOf (availableBalance : ℤ) (staking : StakingBalances) : List Balance :=
  [{ type := .available, amount := availableBalance },
    { type := .staked, amount := staking.stakedBalance },
    { type := .pending, amount := staking.pendingBalance },
    { type := .claimable, amount := staking.claimableBalance }]

/-- Source: `services/balance-service.ts`, `getBalances`; `getDelegations` is the staking
service's. -/
def getBalances (viem : Viem) (getBalance : String → Result ℤ)
    (getDelegations : String → Result (List Delegation)) (address : String) :
    Result (List Balance) := do
  let evmAddress ← parseEvmAddress viem address
  let availableBalance ← getBalance evmAddress
  let delegations ← getDelegations evmAddress
  return balancesOf availableBalance (stakingBalances delegations)

/-! ## Matching -/

/-- The credit contract of an operator, looked up by the value of its address. -/
def creditOf (contractValidators : CreditContracts) (operatorAddress : String) : Option String :=
  (contractValidators.entries.find?
    fun e => addressValue e.1 = addressValue operatorAddress).bind Prod.snd

/-- Credit contracts as `viem` decodes them: addresses with their checksums. -/
structure CreditContracts.Decoded (viem : Viem) (contractValidators : CreditContracts) : Prop where
  key : ∀ e ∈ contractValidators.entries, viem.getAddress e.1 = e.1
  value : ∀ e ∈ contractValidators.entries, ∃ creditAddress, e.2 = some creditAddress ∧
    viem.isAddress creditAddress = true

/-- The validators that are in the contract, by value, with their credit contracts. -/
def MatchedByValue (contractValidators : CreditContracts) (bnbValidators : List BNBChainValidator)
    (validators : List Validator) : Prop :=
  List.Forall₂
    (fun bnbValidator validator =>
      addressValue validator.operatorAddress = addressValue bnbValidator.operatorAddress ∧
        creditOf contractValidators bnbValidator.operatorAddress = some validator.creditAddress)
    (bnbValidators.filter fun v => (creditOf contractValidators v.operatorAddress).isSome)
    validators

/-- Each validator that is in the contract is spelled with the checksum. -/
def KnownChecksummed (viem : Viem) (contractValidators : CreditContracts)
    (bnbValidators : List BNBChainValidator) : Prop :=
  ∀ v ∈ bnbValidators, (creditOf contractValidators v.operatorAddress).isSome = true →
    viem.getAddress v.operatorAddress = v.operatorAddress

section matching

variable {viem : Viem} {contractValidators : CreditContracts}
  {bnbValidators : List BNBChainValidator} {bnbValidator : BNBChainValidator}
  {operatorAddress creditAddress : String}

/-- An operator is found by its spelling iff it is checksummed and found by its value. -/
theorem get_bind_eq (hviem : viem.Checksums) (hmap : contractValidators.Decoded viem)
    (haddress : viem.isAddress operatorAddress = true) :
    (contractValidators.get operatorAddress).bind id =
      if viem.getAddress operatorAddress = operatorAddress then
        creditOf contractValidators operatorAddress
      else none := by
  have hvalue := ((hviem.isAddress_iff operatorAddress).mp haddress).1
  split_ifs with hnorm
  · rw [JsMap.get, creditOf, find?_of_norm_eq hviem.normalForm hmap.key hvalue hnorm,
      Option.bind_map]
    rfl
  · rw [JsMap.get, find?_of_norm_ne hmap.key hnorm]
    rfl

/-- What the contract holds for an operator is an address. -/
theorem isAddress_of_creditOf (hmap : contractValidators.Decoded viem)
    (h : creditOf contractValidators operatorAddress = some creditAddress) :
    viem.isAddress creditAddress = true := by
  obtain ⟨e, hfind, hcredit⟩ := Option.bind_eq_some_iff.mp h
  obtain ⟨creditAddress', heq, haddress⟩ := hmap.value e (List.mem_of_find?_eq_some hfind)
  obtain rfl := Option.some.inj (heq.symm.trans hcredit)
  exact haddress

/-- The map made of decoded addresses, a credit contract for each operator. -/
theorem decoded_getCreditContractValidators {operatorAddresses creditAddresses : List String}
    (hoperators : ∀ a ∈ operatorAddresses, viem.getAddress a = a)
    (hcredits : ∀ a ∈ creditAddresses, viem.isAddress a = true)
    (hlen : operatorAddresses.length ≤ creditAddresses.length) :
    (getCreditContractValidators operatorAddresses creditAddresses).Decoded viem := by
  refine List.foldlRecOn (motive := CreditContracts.Decoded viem) _ _ ⟨?_, ?_⟩ ?_
  · simp [JsMap.empty]
  · simp [JsMap.empty]
  · rintro m hm ⟨addr, i⟩ hmem
    have haddr := hoperators addr (List.fst_mem_of_mem_zipIdx hmem)
    have hi : i < creditAddresses.length := (List.snd_lt_of_mem_zipIdx hmem).trans_le hlen
    constructor
    · intro e he
      rcases JsMap.mem_entries_set he with rfl | he
      · exact haddr
      · exact hm.key e he
    · intro e he
      rcases JsMap.mem_entries_set he with rfl | he
      · exact ⟨_, List.getElem?_eq_getElem hi, hcredits _ (List.getElem_mem hi)⟩
      · exact hm.value e he

/-- The validator that is made of one in the API. -/
def toValidator (bnbValidator : BNBChainValidator) (creditAddress : String) : Validator :=
  { id := bnbValidator.operatorAddress, status := getValidatorStatus bnbValidator
    name := bnbValidator.moniker, description := bnbValidator.miningStatus
    operatorAddress := bnbValidator.operatorAddress, creditAddress }

/-- The validator that is kept of one in the API: by its spelling. -/
def keptValidator (viem : Viem) (contractValidators : CreditContracts)
    (bnbValidator : BNBChainValidator) : Option Validator :=
  if viem.getAddress bnbValidator.operatorAddress = bnbValidator.operatorAddress then
    (creditOf contractValidators bnbValidator.operatorAddress).map (toValidator bnbValidator)
  else none

/-- One validator is kept or skipped. -/
theorem mapValidator_eq (hviem : viem.Checksums) (hmap : contractValidators.Decoded viem)
    (haddress : viem.isAddress bnbValidator.operatorAddress = true) :
    mapValidator viem contractValidators bnbValidator =
      .ok (keptValidator viem contractValidators bnbValidator).toList := by
  have hparse := parseEvmAddress_eq_ok.mpr ⟨haddress, rfl⟩
  rw [mapValidator, hparse]
  simp only [bind, Except.bind, get_bind_eq hviem hmap haddress, keptValidator]
  split_ifs
  · cases hcredit : creditOf contractValidators bnbValidator.operatorAddress with
    | none => rfl
    | some creditAddress =>
        have hcreditAddress := isAddress_of_creditOf hmap hcredit
        have hne : creditAddress ≠ "" := by
          rintro rfl
          exact absurd ((hviem.isAddress_iff _).mp hcreditAddress).1 (by decide)
        have hfilter : (some creditAddress).filter (· ≠ "") = some creditAddress := by simp [hne]
        simp only [hfilter, parseEvmAddress_eq_ok.mpr ⟨hcreditAddress, rfl⟩]
        rfl
  · rfl

/-- **Which validators are kept**: those that are found as they are spelled. -/
theorem mapValidators_eq (hviem : viem.Checksums) (hmap : contractValidators.Decoded viem)
    (haddress : ∀ v ∈ bnbValidators, viem.isAddress v.operatorAddress = true) :
    mapValidators viem bnbValidators contractValidators =
      .ok (bnbValidators.filterMap (keptValidator viem contractValidators)) := by
  have hlists : bnbValidators.mapM (mapValidator viem contractValidators) =
      .ok (bnbValidators.map fun v => (keptValidator viem contractValidators v).toList) := by
    rw [mapM_eq_ok, List.forall₂_map_right_iff, List.forall₂_same]
    exact fun v hv => mapValidator_eq hviem hmap (haddress v hv)
  rw [mapValidators, hlists, List.filterMap_eq_flatMap_toList]
  rfl

/-- What is kept is the validator at its value. -/
theorem keptValidator_eq_some {validator : Validator}
    (h : keptValidator viem contractValidators bnbValidator = some validator) :
    (creditOf contractValidators bnbValidator.operatorAddress).isSome = true ∧
      addressValue validator.operatorAddress = addressValue bnbValidator.operatorAddress ∧
        creditOf contractValidators bnbValidator.operatorAddress =
          some validator.creditAddress := by
  unfold keptValidator at h
  split_ifs at h
  obtain ⟨creditAddress, hcredit, rfl⟩ := Option.map_eq_some_iff.mp h
  exact ⟨Option.isSome_of_eq_some hcredit, rfl, hcredit⟩

/-- **When validators are matched by value.** -/
theorem matchedByValue_iff : MatchedByValue contractValidators bnbValidators
      (bnbValidators.filterMap (keptValidator viem contractValidators)) ↔
    KnownChecksummed viem contractValidators bnbValidators := by
  rw [MatchedByValue, forall₂_filter_filterMap_iff fun v _ validator => keptValidator_eq_some]
  refine forall₂_congr fun v _ => ?_
  unfold keptValidator
  split_ifs with hnorm
  · simp [hnorm]
  · simp [hnorm]

end matching

/-! ## Positions -/

/-- One state of the stake and the unbond requests of a delegator, by credit contract. -/
structure Positions where
  pooledBNB : String → MulticallResult
  pendingUnbond : String → MulticallResult
  unbondRequest : String → ℕ → UnbondRequest

/-- Reads that answer from one state, multicalls contract by contract. -/
structure ReadsPositions (rpc : DelegationRpcClient) (positions : Positions) (delegator : String) :
    Prop where
  getPooledBNBData : ∀ creditContracts, rpc.getPooledBNBData creditContracts delegator =
    .ok (creditContracts.map positions.pooledBNB)
  getPendingUnbondDelegation : ∀ creditContracts,
    rpc.getPendingUnbondDelegation creditContracts delegator =
      .ok (creditContracts.map positions.pendingUnbond)
  getUnbondRequestData : ∀ creditContract index,
    rpc.getUnbondRequestData creditContract delegator index =
      .ok (positions.unbondRequest creditContract index)

/-- The active stake with a credit contract. -/
def Positions.active (positions : Positions) (creditAddress : String) : Option ℤ :=
  processSingleMulticallResult (positions.pooledBNB creditAddress)

/-- The unbond requests of a credit contract that are read. -/
def Positions.requests (positions : Positions) (creditAddress : String) : List UnbondRequest :=
  match processSingleMulticallResult (positions.pendingUnbond creditAddress) with
  | none => []
  | some pendingCountRaw =>
      (List.range (clampPendingUnbondCount pendingCountRaw)).map
        (positions.unbondRequest creditAddress)

/-- All that is held with a credit contract. -/
def Positions.amount (positions : Positions) (creditAddress : String) : ℤ :=
  (positions.active creditAddress).getD 0 +
    ((positions.requests creditAddress).map UnbondRequest.amount).sum

section listing

variable {viem : Viem} {rpc : DelegationRpcClient} {positions : Positions} {delegator : String}
  {validators : List Validator} {now : ℤ}

/-- The active delegations of a state. -/
def activeDelegations (positions : Positions) (validators : List Validator) : List Delegation :=
  validators.zipIdx.filterMap fun (validator, index) =>
    (positions.active validator.creditAddress).map fun stakedAmount =>
      { id := s!"delegation_active_{index}", validator, amount := stakedAmount, status := .active
        delegationIndex := -1, pendingUntil := 0 }

/-- The unbond delegations of a state. -/
def unbondDelegations (positions : Positions) (now : ℤ) (validator : Validator) :
    List Delegation :=
  (positions.requests validator.creditAddress).zipIdx.map fun (req, index) =>
    unbondDelegation validator now req index

/-- The delegations of a state. -/
def listedDelegations (positions : Positions) (now : ℤ) (validators : List Validator) :
    List Delegation :=
  activeDelegations positions validators ++ validators.flatMap (unbondDelegations positions now)

/-- The credit contracts asked are those of the validators. -/
theorem mapM_parseEvmAddress
    (hcredit : ∀ v ∈ validators, viem.isAddress v.creditAddress = true) :
    (validators.mapM fun v => parseEvmAddress viem v.creditAddress) =
      .ok (validators.map Validator.creditAddress) := by
  rw [mapM_eq_ok, List.forall₂_map_right_iff, List.forall₂_same]
  exact fun v hv => parseEvmAddress_eq_ok.mpr ⟨hcredit v hv, rfl⟩

/-- Answers credit contract by credit contract go with the validators. -/
theorem zip_answers (answer : String → MulticallResult) (validators : List Validator) :
    ((validators.map Validator.creditAddress).map answer).zip validators =
      validators.map fun v => (answer v.creditAddress, v) := by
  rw [List.map_map, ← List.map_prod_right_eq_zip]
  rfl

/-- The active stake that is listed. -/
theorem getActiveDelegations_eq (hreads : ReadsPositions rpc positions delegator)
    (hcredit : ∀ v ∈ validators, viem.isAddress v.creditAddress = true) :
    getActiveDelegations viem rpc delegator validators =
      .ok (activeDelegations positions validators) := by
  rw [getActiveDelegations, mapM_parseEvmAddress hcredit]
  simp only [bind, Except.bind, hreads.getPooledBNBData, zip_answers, List.zipIdx_map,
    List.filterMap_map]
  rfl

/-- The unbond requests of one validator that are listed. -/
theorem unbondDelegationsOf_eq (hreads : ReadsPositions rpc positions delegator)
    {validator : Validator} (hcredit : viem.isAddress validator.creditAddress = true) :
    unbondDelegationsOf viem rpc delegator now
        (positions.pendingUnbond validator.creditAddress) validator =
      .ok (unbondDelegations positions now validator) := by
  unfold unbondDelegationsOf unbondDelegations Positions.requests
  cases hcount : processSingleMulticallResult
      (positions.pendingUnbond validator.creditAddress) with
  | none => rfl
  | some pendingCountRaw =>
      have hread : ((List.range (clampPendingUnbondCount pendingCountRaw)).mapM fun i =>
          rpc.getUnbondRequestData validator.creditAddress delegator i) =
            .ok ((List.range (clampPendingUnbondCount pendingCountRaw)).map
              (positions.unbondRequest validator.creditAddress)) := by
        rw [mapM_eq_ok, List.forall₂_map_right_iff, List.forall₂_same]
        exact fun i _ => hreads.getUnbondRequestData _ i
      simp only
      split_ifs with hzero
      · rw [hzero]
        rfl
      · rw [parseEvmAddress_eq_ok.mpr ⟨hcredit, rfl⟩]
        simp only [bind, Except.bind, getUnbondDelegations, hread]
        rfl

/-- The unbond requests that are listed. -/
theorem getPendingOrClaimableDelegations_eq (hreads : ReadsPositions rpc positions delegator)
    (hcredit : ∀ v ∈ validators, viem.isAddress v.creditAddress = true) :
    getPendingOrClaimableDelegations viem rpc delegator validators now =
      .ok (validators.flatMap (unbondDelegations positions now)) := by
  have heach : ((validators.map fun v => (positions.pendingUnbond v.creditAddress, v)).mapM
      fun e => unbondDelegationsOf viem rpc delegator now e.1 e.2) =
        .ok (validators.map (unbondDelegations positions now)) := by
    rw [mapM_eq_ok, List.forall₂_map_left_iff, List.forall₂_map_right_iff, List.forall₂_same]
    exact fun v hv => unbondDelegationsOf_eq hreads (hcredit v hv)
  rw [getPendingOrClaimableDelegations, mapM_parseEvmAddress hcredit]
  simp only [bind, Except.bind, hreads.getPendingUnbondDelegation, zip_answers, heach]
  rfl

/-- What is listed of a delegator's positions with some validators. -/
theorem getDelegations_eq (hreads : ReadsPositions rpc positions delegator)
    (hdelegator : viem.isAddress delegator = true)
    (hcredit : ∀ v ∈ validators, viem.isAddress v.creditAddress = true) :
    getDelegations viem rpc (.ok validators) now delegator =
      .ok (listedDelegations positions now validators) := by
  rw [getDelegations, parseEvmAddress_eq_ok.mpr ⟨hdelegator, rfl⟩]
  simp only [bind, Except.bind, getActiveDelegations_eq hreads hcredit,
    getPendingOrClaimableDelegations_eq hreads hcredit]
  rfl

/-- Active stake with a validator is listed. -/
theorem exists_mem_activeDelegations {validator : Validator} {amount : ℤ}
    (hv : validator ∈ validators) (h : positions.active validator.creditAddress = some amount) :
    ∃ d ∈ activeDelegations positions validators,
      d.validator = validator ∧ d.status = .active ∧ d.amount = amount := by
  obtain ⟨index, hindex⟩ := List.mem_iff_getElem?.mp hv
  refine ⟨_, List.mem_filterMap.mpr ⟨(validator, index), List.mk_mem_zipIdx_iff_getElem?.mpr hindex,
    Option.map_eq_some_iff.mpr ⟨amount, h, rfl⟩⟩, rfl, rfl, rfl⟩

/-- An unbond request with a validator is listed. -/
theorem exists_mem_unbondDelegations {validator : Validator} {index : ℕ} {req : UnbondRequest}
    (h : (positions.requests validator.creditAddress)[index]? = some req) :
    ∃ d ∈ unbondDelegations positions now validator,
      d.validator = validator ∧ d.delegationIndex = index ∧ d.amount = req.amount := by
  have hmem : (req, index) ∈ (positions.requests validator.creditAddress).zipIdx :=
    List.mk_mem_zipIdx_iff_getElem?.mpr h
  exact ⟨_, List.mem_map_of_mem hmem, unbondDelegation_fields validator req index⟩

/-- An unbond request is listed as Pending or Claimable. -/
theorem unbondDelegation_status_ne_frozen (validator : Validator) (req : UnbondRequest)
    (index : ℕ) : (unbondDelegation validator now req index).status ≠ .frozen := by
  unfold unbondDelegation
  split
  · simp
  · simp only
    split_ifs <;> simp

/-- No delegation that is listed is frozen. -/
theorem status_ne_frozen {d : Delegation} (h : d ∈ listedDelegations positions now validators) :
    d.status ≠ .frozen := by
  rcases List.mem_append.mp h with h | h
  · obtain ⟨_, -, h⟩ := List.mem_filterMap.mp h
    obtain ⟨_, -, rfl⟩ := Option.map_eq_some_iff.mp h
    simp
  · obtain ⟨validator, -, h⟩ := List.mem_flatMap.mp h
    obtain ⟨⟨req, index⟩, -, rfl⟩ := List.mem_map.mp h
    exact unbondDelegation_status_ne_frozen validator req index

/-- The amounts of the active stake that is listed. -/
theorem amounts_activeDelegations : (activeDelegations positions validators).map Delegation.amount =
    validators.filterMap fun v => positions.active v.creditAddress := by
  have hfst : (fun e : Validator × ℕ => positions.active e.1.creditAddress) =
      (fun v : Validator => positions.active v.creditAddress) ∘ Prod.fst := rfl
  rw [activeDelegations, List.map_filterMap]
  simp only [Option.map_map, Function.comp_def, Option.map_id']
  rw [hfst, ← List.filterMap_map, List.zipIdx_map_fst]

/-- The amounts of the unbond requests that are listed. -/
theorem amounts_unbondDelegations {validator : Validator} :
    (unbondDelegations positions now validator).map Delegation.amount =
      (positions.requests validator.creditAddress).map UnbondRequest.amount := by
  have hamount : (Delegation.amount ∘ fun e : UnbondRequest × ℕ =>
      unbondDelegation validator now e.1 e.2) = UnbondRequest.amount ∘ Prod.fst :=
    funext fun e => (unbondDelegation_fields validator e.1 e.2).2.2
  calc (unbondDelegations positions now validator).map Delegation.amount
      = (positions.requests validator.creditAddress).zipIdx.map
          (UnbondRequest.amount ∘ Prod.fst) := by
        rw [unbondDelegations, List.map_map]
        exact congrArg (List.map · _) hamount
    _ = (positions.requests validator.creditAddress).map UnbondRequest.amount := by
        rw [← List.map_map, List.zipIdx_map_fst]

/-- Missing amounts count as zero. -/
theorem sum_filterMap {α : Type} (l : List α) (f : α → Option ℤ) :
    (l.filterMap f).sum = (l.map fun a => (f a).getD 0).sum := by
  induction l with
  | nil => rfl
  | cons a l ih =>
      cases hf : f a with
      | none => simp [List.filterMap_cons_none hf, hf, ih]
      | some n => simp [List.filterMap_cons_some hf, hf, ih]

/-- The amounts listed for some validators are what is held with them. -/
theorem sum_listedDelegations :
    ((listedDelegations positions now validators).map Delegation.amount).sum =
      (validators.map fun v => positions.amount v.creditAddress).sum := by
  have hunbond : ((validators.flatMap (unbondDelegations positions now)).map
      Delegation.amount).sum = (validators.map fun v =>
        ((positions.requests v.creditAddress).map UnbondRequest.amount).sum).sum := by
    rw [List.map_flatMap, List.flatMap_def, List.sum_flatten, List.map_map]
    simp only [amounts_unbondDelegations, Function.comp_def]
  rw [listedDelegations, List.map_append, List.sum_append, amounts_activeDelegations,
    sum_filterMap, hunbond, ← List.sum_map_add]
  rfl

end listing

section balances

/-- What the balances of stake add up to. -/
def StakingBalances.total (b : StakingBalances) : ℤ :=
  b.stakedBalance + b.pendingBalance + b.claimableBalance

/-- What is returned for the delegations. -/
theorem getBalances_eq {viem : Viem} {getBalance : String → Result ℤ}
    {getDelegations : String → Result (List Delegation)} {address : String} {available : ℤ}
    {ds : List Delegation} (haddress : viem.isAddress address = true)
    (hbalance : getBalance address = .ok available)
    (hdelegations : getDelegations address = .ok ds) :
    getBalances viem getBalance getDelegations address =
      .ok (balancesOf available (stakingBalances ds)) := by
  rw [getBalances, parseEvmAddress_eq_ok.mpr ⟨haddress, rfl⟩]
  simp only [bind, Except.bind, hbalance, hdelegations]
  rfl

/-- The balances of stake are among those returned. -/
theorem totalOfType_balancesOf (available : ℤ) (staking : StakingBalances) :
    totalOfType .staked (balancesOf available staking) +
        totalOfType .pending (balancesOf available staking) +
          totalOfType .claimable (balancesOf available staking) = staking.total := by
  simp [totalOfType, balancesOf, StakingBalances.total]

/-- **Step**: a delegation is counted in one balance. -/
theorem StakingBalances.total_add {acc : StakingBalances} {d : Delegation}
    (h : d.status ≠ .frozen) : (acc.add d).total = acc.total + d.amount := by
  unfold StakingBalances.add StakingBalances.total
  cases hstatus : d.status with
  | frozen => exact absurd hstatus h
  | pending => ring
  | claimable => ring
  | active => ring
  | inactive => ring

/-- **Run**: delegations are counted once each. -/
theorem total_stakingBalances {ds : List Delegation} (h : ∀ d ∈ ds, d.status ≠ .frozen) :
    (stakingBalances ds).total = (ds.map Delegation.amount).sum := by
  have hrun : ∀ acc : StakingBalances, (ds.foldl StakingBalances.add acc).total =
      acc.total + (ds.map Delegation.amount).sum := by
    induction ds with
    | nil => simp
    | cons d ds ih =>
        intro acc
        rw [List.foldl_cons, ih fun d' hd' => h d' (List.mem_cons_of_mem _ hd'),
          StakingBalances.total_add (h d List.mem_cons_self), List.map_cons, List.sum_cons,
          add_assoc]
  rw [stakingBalances, hrun, StakingBalances.total]
  ring

end balances

/-! ## Nothing is lost -/

/-- A delegation listed for a validator of the API, by its value, and its credit contract. -/
def ListedFor (bnbValidator : BNBChainValidator) (creditAddress : String) (d : Delegation) : Prop :=
  addressValue d.validator.operatorAddress = addressValue bnbValidator.operatorAddress ∧
    d.validator.creditAddress = creditAddress

/-- Every position with a validator that is in the contract, by value, is listed. -/
def ListsPositions (contractValidators : CreditContracts)
    (bnbValidators : List BNBChainValidator) (positions : Positions) (ds : List Delegation) :
    Prop :=
  ∀ v ∈ bnbValidators, ∀ creditAddress,
    creditOf contractValidators v.operatorAddress = some creditAddress →
      (∀ amount, positions.active creditAddress = some amount →
        ∃ d ∈ ds, ListedFor v creditAddress d ∧ d.status = .active ∧ d.amount = amount) ∧
      ∀ (index : ℕ) req, (positions.requests creditAddress)[index]? = some req →
        ∃ d ∈ ds, ListedFor v creditAddress d ∧ d.delegationIndex = index ∧ d.amount = req.amount

/-- What is held with the validators that are in the contract, by value. -/
def heldAmount (contractValidators : CreditContracts) (bnbValidators : List BNBChainValidator)
    (positions : Positions) : ℤ :=
  ((bnbValidators.filterMap fun v => creditOf contractValidators v.operatorAddress).map
    positions.amount).sum

/-- `getDelegations` lists every position with a known validator, and `getBalances` counts it. -/
def KeepsPositions (viem : Viem) (contractValidators : CreditContracts)
    (bnbValidators : List BNBChainValidator) : Prop :=
  ∀ rpc positions delegator now, viem.isAddress delegator = true →
    ReadsPositions rpc positions delegator →
      let delegations := getDelegations viem rpc
        (fetchAllValidators viem none (.ok bnbValidators) (.ok contractValidators)) now
      (∃ ds, delegations delegator = .ok ds ∧
        ListsPositions contractValidators bnbValidators positions ds) ∧
      ∀ getBalance available, getBalance delegator = .ok available →
        ∃ balances, getBalances viem getBalance delegations delegator = .ok balances ∧
          totalOfType .staked balances + totalOfType .pending balances +
              totalOfType .claimable balances =
            heldAmount contractValidators bnbValidators positions

section known

variable {viem : Viem} {contractValidators : CreditContracts}
  {bnbValidators : List BNBChainValidator}

/-- Where the validators in the contract are checksummed, they are the ones kept. -/
theorem keptValidator_of_knownChecksummed
    (h : KnownChecksummed viem contractValidators bnbValidators) {v : BNBChainValidator}
    (hv : v ∈ bnbValidators) : keptValidator viem contractValidators v =
      (creditOf contractValidators v.operatorAddress).map (toValidator v) := by
  unfold keptValidator
  split_ifs with hnorm
  · rfl
  · cases hcredit : creditOf contractValidators v.operatorAddress with
    | none => rfl
    | some creditAddress => exact absurd (h v hv (by simp [hcredit])) hnorm

/-- A known validator is kept. -/
theorem toValidator_mem_kept (h : KnownChecksummed viem contractValidators bnbValidators)
    {v : BNBChainValidator} (hv : v ∈ bnbValidators) {creditAddress : String}
    (hknown : creditOf contractValidators v.operatorAddress = some creditAddress) :
    toValidator v creditAddress ∈
      bnbValidators.filterMap (keptValidator viem contractValidators) := by
  refine List.mem_filterMap.mpr ⟨v, hv, ?_⟩
  rw [keptValidator_of_knownChecksummed h hv, hknown]
  rfl

/-- Every position with a known validator is listed. -/
theorem listsPositions_of_knownChecksummed
    (h : KnownChecksummed viem contractValidators bnbValidators) (positions : Positions) (now : ℤ) :
    ListsPositions contractValidators bnbValidators positions
      (listedDelegations positions now
        (bnbValidators.filterMap (keptValidator viem contractValidators))) := by
  intro v hv creditAddress hknown
  have hmem := toValidator_mem_kept h hv hknown
  constructor
  · intro amount hactive
    obtain ⟨d, hd, hvalidator, hstatus, hamount⟩ := exists_mem_activeDelegations hmem hactive
    exact ⟨d, List.mem_append_left _ hd, ⟨hvalidator ▸ rfl, hvalidator ▸ rfl⟩, hstatus, hamount⟩
  · intro index req hreq
    obtain ⟨d, hd, hvalidator, hindex, hamount⟩ :=
      @exists_mem_unbondDelegations positions now (toValidator v creditAddress) index req hreq
    exact ⟨d, List.mem_append_right _ (List.mem_flatMap.mpr ⟨_, hmem, hd⟩),
      ⟨hvalidator ▸ rfl, hvalidator ▸ rfl⟩, hindex, hamount⟩

/-- Every position with a known validator is counted. -/
theorem sum_kept_of_knownChecksummed
    (h : KnownChecksummed viem contractValidators bnbValidators) (positions : Positions) :
    ((bnbValidators.filterMap (keptValidator viem contractValidators)).map fun v =>
      positions.amount v.creditAddress).sum =
        heldAmount contractValidators bnbValidators positions := by
  rw [heldAmount, List.filterMap_congr fun v hv => keptValidator_of_knownChecksummed h hv,
    List.map_filterMap, List.map_filterMap]
  simp only [Option.map_map]
  rfl

/-- **No position is lost** where the validators in the contract are checksummed. -/
theorem keepsPositions_of_knownChecksummed (hviem : viem.Checksums)
    (hmap : contractValidators.Decoded viem)
    (haddress : ∀ v ∈ bnbValidators, viem.isAddress v.operatorAddress = true)
    (h : KnownChecksummed viem contractValidators bnbValidators) :
    KeepsPositions viem contractValidators bnbValidators := by
  intro rpc positions delegator now hdelegator hreads delegations
  have hfetch : fetchAllValidators viem none (.ok bnbValidators) (.ok contractValidators) =
      .ok (bnbValidators.filterMap (keptValidator viem contractValidators)) :=
    mapValidators_eq hviem hmap haddress
  have hcredit : ∀ v ∈ bnbValidators.filterMap (keptValidator viem contractValidators),
      viem.isAddress v.creditAddress = true := by
    intro validator hvalidator
    obtain ⟨v, -, hkept⟩ := List.mem_filterMap.mp hvalidator
    exact isAddress_of_creditOf hmap (keptValidator_eq_some hkept).2.2
  have hlisted : delegations delegator = .ok (listedDelegations positions now
      (bnbValidators.filterMap (keptValidator viem contractValidators))) := by
    simp only [delegations, hfetch]
    exact getDelegations_eq hreads hdelegator hcredit
  refine ⟨⟨_, hlisted, listsPositions_of_knownChecksummed h positions now⟩, ?_⟩
  intro getBalance available hbalance
  refine ⟨_, getBalances_eq hdelegator hbalance hlisted, ?_⟩
  rw [totalOfType_balancesOf, total_stakingBalances fun _ => status_ne_frozen,
    sum_listedDelegations, sum_kept_of_knownChecksummed h]

/-- **When validators are matched by value**, and no position with one is lost: iff each one that is
in the contract is spelled with its checksum. -/
theorem mapValidators_byValue_iff (hviem : viem.Checksums) (hmap : contractValidators.Decoded viem)
    (haddress : ∀ v ∈ bnbValidators, viem.isAddress v.operatorAddress = true) :
    ((∃ validators, mapValidators viem bnbValidators contractValidators = .ok validators ∧
          MatchedByValue contractValidators bnbValidators validators) ∧
        KeepsPositions viem contractValidators bnbValidators) ↔
      KnownChecksummed viem contractValidators bnbValidators := by
  constructor
  · rintro ⟨⟨validators, hvalidators, hmatched⟩, -⟩
    obtain rfl := Except.ok.inj (hvalidators.symm.trans (mapValidators_eq hviem hmap haddress))
    exact matchedByValue_iff.mp hmatched
  · intro h
    exact ⟨⟨_, mapValidators_eq hviem hmap haddress, matchedByValue_iff.mpr h⟩,
      keepsPositions_of_knownChecksummed hviem hmap haddress h⟩

end known

section lowerCase

/-- The text of a value in lower case. -/
def lowerText (value : List ℕ) : String := String.ofList ('0' :: 'x' :: value.map Nat.digitChar)

/-- The operator of a validator and its credit contract. -/
def twStaking : String := "0x5c38FF8Ca2b16099C086bF36546e99b13D152C4c"
def twStakingCredit : String := "0xc437593d9C296bf9A5002522A86dad8a4d4Af808"

/-- The checksummed text of a value, for the two addresses. -/
def checksumText (value : List ℕ) : String :=
  if addressValue twStaking = some value then twStaking
  else if addressValue twStakingCredit = some value then twStakingCredit
  else lowerText value

/-- `viem` on the two addresses. -/
def checksumViem : Viem where
  isAddress s := match addressValue s with
    | none => false
    | some value => s.toList.map Char.toLower = s.toList || checksumText value = s
  getAddress s := ((addressValue s).map checksumText).getD s
  formatEther _ := ""
  toFunctionSelector _ := ""
  encodeAbiParameters _ := .ok "0x"
  serializeTransaction _ _ := .ok "0x02"
  parseTransaction _ := .error (.foreign "not parsed")
  parseSignature _ := .error (.foreign "not parsed")
  signatureToHex _ := "0x"
  recoverTransactionAddress _ := .error (.foreign "not recovered")
  addressOf _ := "0x"
  signDigest _ _ := { r := "0x", s := "0x", yParity := 0 }

/-- The digits of a text that has a value. -/
theorem mapM_digitValue_eq_some {digits : List Char} {value : List ℕ}
    (h : digits.mapM (digitValue 16) = some value) :
    value.length = digits.length ∧ ∀ d ∈ value, d < 16 := by
  induction digits generalizing value with
  | nil =>
      obtain rfl : [] = value := Option.some.inj h
      simp
  | cons c digits ih =>
      rw [List.mapM_cons] at h
      obtain ⟨d, hd, h⟩ := Option.bind_eq_some_iff.mp h
      obtain ⟨ds, hds, h⟩ := Option.bind_eq_some_iff.mp h
      obtain rfl : d :: ds = value := Option.some.inj h
      obtain ⟨hlen, hlt⟩ := ih hds
      exact ⟨by rw [List.length_cons, List.length_cons, hlen],
        List.forall_mem_cons.mpr ⟨digitValue_lt hd, hlt⟩⟩

/-- A value is forty half bytes. -/
theorem addressValue_eq_some {s : String} {value : List ℕ} (h : addressValue s = some value) :
    value.length = 40 ∧ ∀ d ∈ value, d < 16 := by
  unfold addressValue at h
  split at h
  · next digits _ =>
      split_ifs at h with hlen
      obtain ⟨hvalue, hdigits⟩ := mapM_digitValue_eq_some h
      exact ⟨hvalue.trans hlen, hdigits⟩
  · cases h

/-- A value is read back from its text. -/
theorem addressValue_lowerText {value : List ℕ} (hlen : value.length = 40)
    (hdigits : ∀ d ∈ value, d < 16) : addressValue (lowerText value) = some value := by
  have hread : (value.map Nat.digitChar).mapM (digitValue 16) = some value := by
    clear hlen
    induction value with
    | nil => rfl
    | cons d value ih =>
        obtain ⟨hd, hvalue⟩ := List.forall_mem_cons.mp hdigits
        rw [List.map_cons, List.mapM_cons, (digitChar_hex d hd).1, ih hvalue]
        rfl
  rw [addressValue, lowerText, String.toList_ofList]
  simp only [List.length_map, if_pos hlen]
  exact hread

theorem checksums_checksumViem : checksumViem.Checksums := by
  have hvalue : ∀ {s value}, addressValue s = some value →
      addressValue (checksumText value) = some value := by
    intro s value hs
    obtain ⟨hlen, hdigits⟩ := addressValue_eq_some hs
    unfold checksumText
    split_ifs with h h'
    · exact h
    · exact h'
    · exact addressValue_lowerText hlen hdigits
  refine ⟨?_, ?_, ?_⟩
  · intro s
    cases hs : addressValue s with
    | none => simp [checksumViem, hs]
    | some value => simp [checksumViem, hs]
  · intro s hsome
    obtain ⟨value, hs⟩ := Option.isSome_iff_exists.mp hsome
    simp only [checksumViem, hs, Option.map_some, Option.getD_some]
    exact hvalue hs
  · intro s t hsome heq
    obtain ⟨value, hs⟩ := Option.isSome_iff_exists.mp hsome
    simp only [checksumViem, ← heq, hs, Option.map_some, Option.getD_some]

/-- The contract with the validator. -/
def twStakingContracts : CreditContracts :=
  getCreditContractValidators [twStaking] [twStakingCredit]

theorem decoded_twStakingContracts : twStakingContracts.Decoded checksumViem :=
  decoded_getCreditContractValidators (by decide +kernel) (by decide +kernel) le_rfl

/-- The validator in the API, its operator address spelled as given. -/
def twStakingValidator (operatorAddress : String) : BNBChainValidator :=
  { operatorAddress, moniker := "TWStaking", miningStatus := "CABINET", status := .active }

/-- A checksummed operator address is matched. -/
theorem mapValidators_byValue_twStaking :
    (∃ validators, mapValidators checksumViem [twStakingValidator twStaking] twStakingContracts =
          .ok validators ∧
        MatchedByValue twStakingContracts [twStakingValidator twStaking] validators) ∧
      KeepsPositions checksumViem twStakingContracts [twStakingValidator twStaking] :=
  (mapValidators_byValue_iff checksums_checksumViem decoded_twStakingContracts
    (List.forall_mem_singleton.mpr (by decide +kernel))).mpr
      (List.forall_mem_singleton.mpr fun _ => by decide +kernel)

/-- The same address in lower case. -/
def lowerTwStaking : String := "0x5c38ff8ca2b16099c086bf36546e99b13d152c4c"

/-- In lower case it passes `parseEvmAddress`, denotes an operator of the contract, and is
skipped. -/
theorem mapValidators_lowerCase :
    parseEvmAddress checksumViem lowerTwStaking = .ok lowerTwStaking ∧
      creditOf twStakingContracts lowerTwStaking = some twStakingCredit ∧
      mapValidators checksumViem [twStakingValidator lowerTwStaking] twStakingContracts = .ok [] ∧
      ¬∃ validators, mapValidators checksumViem [twStakingValidator lowerTwStaking]
          twStakingContracts = .ok validators ∧
        MatchedByValue twStakingContracts [twStakingValidator lowerTwStaking] validators := by
  have hskipped : mapValidators checksumViem [twStakingValidator lowerTwStaking]
      twStakingContracts = .ok [] := by decide +kernel
  refine ⟨by decide +kernel, by decide +kernel, hskipped, ?_⟩
  rintro ⟨validators, hvalidators, hmatched⟩
  obtain rfl := Except.ok.inj (hskipped.symm.trans hvalidators)
  exact absurd hmatched.length_eq (by decide +kernel)

end lowerCase

end GuardianStake.Bsc
