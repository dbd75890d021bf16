import GuardianStake.Bsc.Types

/-!
# Listing delegations on BSC

`services/staking-service.ts`: the active stake of a delegator and its unbond requests, validator
by validator. A request is numbered by its position in the queue of its validator.

* `ReadsHub` — reads that answer from one state of the queues.
* `getDelegations_claimable` — **what is listed as Claimable**: the request at the listed position
  of its validator's queue, with its amount, matured.

The summary that goes with the list is left out, and with it the read that feeds only it.
-/

namespace GuardianStake.Bsc

open Sdk

/-! ## Responses -/

/-- Source: `abi/abi-types.ts`, `MulticallResult`; `success` is `status === "success"`. -/
structure MulticallResult where
  success : Bool
  result : Option ℤ
  deriving DecidableEq, Repr

/-- Source: `abi/abi-types.ts`, `DecodedUnbondRequest`; its `shares` are not read. -/
structure UnbondRequest where
  amount : ℤ
  unlockTime : ℤ
  deriving DecidableEq, Repr

/-- The reads of `rpc/staking-rpc-client-contract.ts` that listing makes. A multicall answers its
contracts in order, one result for each. -/
structure DelegationRpcClient where
  getPendingUnbondDelegation : (creditContracts : List String) → (address : String) →
    Result (List MulticallResult)
  getPooledBNBData : (creditContracts : List String) → (delegator : String) →
    Result (List MulticallResult)
  getUnbondRequestData : (creditContract delegator : String) → (index : ℕ) → Result UnbondRequest

/-! ## The code -/

/-- Source: `services/staking-service.ts`, `MAX_PENDING_UNBOND_COUNT`. -/
def maxPendingUnbondCount : ℤ := 64

/-- Source: `services/staking-service.ts`, `MAX_PLAUSIBLE_UNLOCK_TIME_SECONDS`. -/
def maxPlausibleUnlockTimeSeconds : ℤ := 9999999999

/-- Source: `abi/abi-utils.ts`, `processSingleMulticallResult`. -/
def processSingleMulticallResult (item : MulticallResult) : Option ℤ :=
  if item.success then item.result.filter (0 < ·) else none

/-- Source: `services/staking-service.ts`, `clampPendingUnbondCount`. -/
def clampPendingUnbondCount (rawCount : ℤ) : ℕ :=
  match toNumber rawCount with
  | .int count =>
      if maxSafeInteger < |count| ∨ count ≤ 0 then 0
      else if maxPendingUnbondCount < count then maxPendingUnbondCount.toNat
      else count.toNat
  | .other _ => 0

/-- Source: `services/staking-service.ts`, `safeUnlockTimeMillis`. -/
def safeUnlockTimeMillis (unlockTime : ℤ) : Option ℤ :=
  if unlockTime < 0 ∨ maxPlausibleUnlockTimeSeconds < unlockTime then none
  else some (unlockTime * 1000)

/-- The delegation `getUnbondDelegations` makes of the request at a position. -/
def unbondDelegation (validator : Validator) (now : ℤ) (req : UnbondRequest) (index : ℕ) :
    Delegation :=
  let id := s!"delegation_pending__{validator.creditAddress}_{index}"
  match safeUnlockTimeMillis req.unlockTime with
  -- an implausible time stays Pending, for ever
  | none =>
      { id, validator, amount := req.amount, status := .pending, delegationIndex := index,
        pendingUntil := maxSafeInteger }
  | some unlockTimeInMillis =>
      { id, validator, amount := req.amount
        status := if unlockTimeInMillis < now then .claimable else .pending
        delegationIndex := index
        pendingUntil := if unlockTimeInMillis < now then 0 else unlockTimeInMillis }

section code

variable (viem : Viem) (rpc : DelegationRpcClient)

/-- Source: `services/staking-service.ts`, `getActiveDelegations`. -/
def getActiveDelegations (address : String) (validators : List Validator) :
    Result (List Delegation) := do
  let creditContracts ← validators.mapM fun v => parseEvmAddress viem v.creditAddress
  let pooledBNBData ← rpc.getPooledBNBData creditContracts address
  return (pooledBNBData.zip validators).zipIdx.filterMap fun ((data, validator), index) =>
    (processSingleMulticallResult data).map fun stakedAmount =>
      { id := s!"delegation_active_{index}", validator, amount := stakedAmount, status := .active
        delegationIndex := -1, pendingUntil := 0 }

/-- Source: `services/staking-service.ts`, `getUnbondDelegations`. -/
def getUnbondDelegations (creditAddress address : String) (count : ℕ) (validator : Validator)
    (now : ℤ) : Result (List Delegation) := do
  let unbondRequests ← (List.range count).mapM fun i =>
    rpc.getUnbondRequestData creditAddress address i
  return unbondRequests.zipIdx.map fun (req, index) => unbondDelegation validator now req index

/-- The callback of `getPendingOrClaimableDelegations` over the counts. -/
def unbondDelegationsOf (address : String) (now : ℤ) (result : MulticallResult)
    (validator : Validator) : Result (List Delegation) :=
  match processSingleMulticallResult result with
  | none => .ok []
  | some pendingCountRaw =>
      let pendingCount := clampPendingUnbondCount pendingCountRaw
      if pendingCount = 0 then .ok []
      else do
        let creditAddress ← parseEvmAddress viem validator.creditAddress
        getUnbondDelegations rpc creditAddress address pendingCount validator now

/-- Source: `services/staking-service.ts`, `getPendingOrClaimableDelegations`. -/
def getPendingOrClaimableDelegations (address : String) (validators : List Validator) (now : ℤ) :
    Result (List Delegation) := do
  let creditAddresses ← validators.mapM fun v => parseEvmAddress viem v.creditAddress
  let pendingUnbond ← rpc.getPendingUnbondDelegation creditAddresses address
  let delegationsPerValidator ← (pendingUnbond.zip validators).mapM fun (result, validator) =>
    unbondDelegationsOf viem rpc address now result validator
  return delegationsPerValidator.flatten

/-- Source: `services/staking-service.ts`, `getDelegations`; `fetchAllValidators` is what the call of
that name returns. -/
def getDelegations (fetchAllValidators : Result (List Validator)) (now : ℤ) (address : String) :
    Result (List Delegation) := do
  let evmAddress ← parseEvmAddress viem address
  let validators ← fetchAllValidators
  let activeDelegations ← getActiveDelegations viem rpc evmAddress validators
  let pendingDelegations ← getPendingOrClaimableDelegations viem rpc evmAddress validators now
  return activeDelegations ++ pendingDelegations

end code

/-! ## Queues -/

/-- The unbond requests of one delegator, a queue for each operator address in canonical form. -/
abbrev Hub := String → List UnbondRequest

/-- The queue of a validator. -/
def Hub.queueOf (hub : Hub) (viem : Viem) (validator : Validator) : List UnbondRequest :=
  hub (viem.getAddress validator.operatorAddress)

/-- Reads that answer from one state of the queues: a count, if it is read, is the length of the
validator's queue, and a request that is read is the one at that position. -/
structure ReadsHub (viem : Viem) (rpc : DelegationRpcClient) (hub : Hub) (delegator : String)
    (validators : List Validator) : Prop where
  count : ∀ {results},
    rpc.getPendingUnbondDelegation (validators.map Validator.creditAddress) delegator =
        .ok results →
    List.Forall₂ (fun result v => result.success →
      result.result = some ((hub.queueOf viem v).length : ℤ)) results validators
  request : ∀ v ∈ validators, ∀ {index request},
    rpc.getUnbondRequestData v.creditAddress delegator index = .ok request →
    (hub.queueOf viem v)[index]? = some request

/-! ## What is listed -/

section listed

variable {viem : Viem} {rpc : DelegationRpcClient} {hub : Hub} {delegator : String}
  {validators : List Validator} {now : ℤ}

/-- A listed request is Claimable only if it has matured. -/
theorem unbondDelegation_claimable {validator : Validator} {req : UnbondRequest} {index : ℕ}
    (h : (unbondDelegation validator now req index).status = .claimable) :
    req.unlockTime * 1000 < now := by
  unfold unbondDelegation safeUnlockTimeMillis at h
  split at h
  · cases h
  · next unlockTimeInMillis hsafe =>
      split at hsafe
      · cases hsafe
      · obtain rfl := Option.some.inj hsafe
        simp only at h
        split at h
        · assumption
        · cases h

/-- The position and the amount a request is listed with. -/
theorem unbondDelegation_fields (validator : Validator) (req : UnbondRequest) (index : ℕ) :
    (unbondDelegation validator now req index).validator = validator ∧
      (unbondDelegation validator now req index).delegationIndex = index ∧
      (unbondDelegation validator now req index).amount = req.amount := by
  unfold unbondDelegation
  split <;> exact ⟨rfl, rfl, rfl⟩

/-- What is listed for one validator are the requests read. -/
theorem getUnbondDelegations_mem {creditAddress : String} {count : ℕ} {validator : Validator}
    {ds : List Delegation}
    (h : getUnbondDelegations rpc creditAddress delegator count validator now = .ok ds) :
    ∀ d ∈ ds, ∃ index req, rpc.getUnbondRequestData creditAddress delegator index = .ok req ∧
      d = unbondDelegation validator now req index := by
  obtain ⟨reqs, hreqs, h⟩ := bind_eq_ok.mp h
  obtain rfl := Except.ok.inj h
  intro d hd
  obtain ⟨⟨req, index⟩, hmem, rfl⟩ := List.mem_map.mp hd
  obtain ⟨-, hlt, hget⟩ := List.mem_zipIdx hmem
  obtain ⟨hlen, heach⟩ := List.forall₂_iff_get.mp (mapM_eq_ok.mp hreqs)
  have hindex : index < reqs.length := by omega
  have hread := heach index (by omega) hindex
  simp only [List.get_eq_getElem, List.getElem_range] at hread
  refine ⟨index, req, ?_, rfl⟩
  simpa [hget] using hread

/-- What is listed for the validators is listed for one of them. -/
theorem getPendingOrClaimableDelegations_mem {ds : List Delegation}
    (h : getPendingOrClaimableDelegations viem rpc delegator validators now = .ok ds) :
    ∀ d ∈ ds, ∃ validator ∈ validators, ∃ index req,
      rpc.getUnbondRequestData validator.creditAddress delegator index = .ok req ∧
        d = unbondDelegation validator now req index := by
  obtain ⟨creditAddresses, -, h⟩ := bind_eq_ok.mp h
  obtain ⟨results, -, h⟩ := bind_eq_ok.mp h
  obtain ⟨lists, hlists, h⟩ := bind_eq_ok.mp h
  obtain rfl := Except.ok.inj h
  intro d hd
  obtain ⟨l, hl, hd⟩ := List.mem_flatten.mp hd
  obtain ⟨⟨result, validator⟩, hpair, hl⟩ := exists_of_mem_mapM hlists hl
  refine ⟨validator, (List.of_mem_zip hpair).2, ?_⟩
  simp only [unbondDelegationsOf] at hl
  split at hl
  · obtain rfl := Except.ok.inj hl
    exact absurd hd List.not_mem_nil
  · split at hl
    · obtain rfl := Except.ok.inj hl
      exact absurd hd List.not_mem_nil
    · obtain ⟨creditAddress, hcredit, hl⟩ := bind_eq_ok.mp hl
      obtain ⟨-, rfl⟩ := parseEvmAddress_eq_ok.mp hcredit
      exact getUnbondDelegations_mem hl d hd

/-- **What is listed as Claimable** is the request at the listed position of its validator's queue,
with its amount, matured. -/
theorem getDelegations_claimable (hreads : ReadsHub viem rpc hub delegator validators)
    {ds : List Delegation}
    (h : getDelegations viem rpc (.ok validators) now delegator = .ok ds) :
    ∀ d ∈ ds, d.status = .claimable → ∃ (index : ℕ) (req : UnbondRequest),
      d.delegationIndex = index ∧ (hub.queueOf viem d.validator)[index]? = some req ∧
        d.amount = req.amount ∧ req.unlockTime * 1000 < now := by
  obtain ⟨evmAddress, haddress, h⟩ := bind_eq_ok.mp h
  obtain ⟨-, rfl⟩ := parseEvmAddress_eq_ok.mp haddress
  obtain ⟨_, hvalidators, h⟩ := bind_eq_ok.mp h
  obtain rfl := Except.ok.inj hvalidators
  obtain ⟨active, hactive, h⟩ := bind_eq_ok.mp h
  obtain ⟨pending, hpending, h⟩ := bind_eq_ok.mp h
  obtain rfl := Except.ok.inj h
  intro d hd hclaimable
  rcases List.mem_append.mp hd with hd | hd
  · -- the active entries are Active
    obtain ⟨creditContracts, -, hactive⟩ := bind_eq_ok.mp hactive
    obtain ⟨data, -, hactive⟩ := bind_eq_ok.mp hactive
    obtain rfl := Except.ok.inj hactive
    obtain ⟨_, -, hd⟩ := List.mem_filterMap.mp hd
    obtain ⟨_, -, rfl⟩ := Option.map_eq_some_iff.mp hd
    cases hclaimable
  · obtain ⟨validator, hvalidator, index, req, hread, rfl⟩ :=
      getPendingOrClaimableDelegations_mem hpending d hd
    obtain ⟨hv, hindex, hamount⟩ := @unbondDelegation_fields now validator req index
    rw [hv]
    exact ⟨index, req, hindex, hreads.request validator hvalidator hread, hamount,
      unbondDelegation_claimable hclaimable⟩

end listed

end GuardianStake.Bsc
