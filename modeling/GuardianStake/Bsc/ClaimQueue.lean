import GuardianStake.Bsc.SignService
import GuardianStake.Bsc.StakingService
import GuardianStake.Found.Transition

/-!
# Claiming unbond requests on BSC

A ClaimDelegate names a request by its position, and `buildCallData` passes the position to
`claim(address,uint256)`, which takes a number of requests, zero for all of them.

* `claimRequests` — the contract's claim: matured requests from the front of the queue.
* `paysPosition_iff` — when `claim(operator, i)` pays the request at position `i` and no
  other.
* `claims_exact_iff` — **in every run** of new requests and claims of listed positions, the claims
  pay exactly what they name iff each names the front request with nothing matured behind it, or the
  second of two equal front requests.
* `claims_payTwo` — two matured requests, paid for one.
-/

namespace GuardianStake.Bsc

open Sdk Found

/-! ## The contracts -/

/-- A request whose unlock time has come; the block's time is that of the clock, in seconds. -/
abbrev UnbondRequest.Matured (now : ℤ) (request : UnbondRequest) : Prop :=
  request.unlockTime * 1000 ≤ now

/-- What `claim(operator, requestNumber)` takes from the queue: matured requests from the front, up
to the first unmatured one and at most `requestNumber` of them, zero meaning all. -/
def claimedRequests (now requestNumber : ℤ) (queue : List UnbondRequest) : List UnbondRequest :=
  (if requestNumber = 0 then queue else queue.take requestNumber.toNat).takeWhile
    fun request => request.Matured now

/-- `claim(operator, requestNumber)` on the operator's queue: what it pays, and what is left. -/
def claimRequests (now requestNumber : ℤ) (queue : List UnbondRequest) :
    ℤ × List UnbondRequest :=
  (((claimedRequests now requestNumber queue).map UnbondRequest.amount).sum,
    queue.drop (claimedRequests now requestNumber queue).length)

/-- A call with given data, as the contract decodes it: what it pays and what it leaves. Data that
is no claim does nothing. -/
def applyCall (decodeClaim : String → Option (String × ℤ)) (now : ℤ) (data : String) (hub : Hub) :
    ℤ × Hub :=
  match decodeClaim data with
  | none => (0, hub)
  | some (operator, requestNumber) =>
      let (paid, rest) := claimRequests now requestNumber (hub operator)
      (paid, Function.update hub operator rest)

/-- The contract decodes what `encodeClaim` encodes. -/
def DecodesClaims (viem : Viem) (decodeClaim : String → Option (String × ℤ)) : Prop :=
  ∀ operator index data, encodeClaim viem operator index = .ok data →
    decodeClaim data = some (viem.getAddress operator, index)

/-! ## One claim -/

section claim

variable {now : ℤ} {queue : List UnbondRequest}

/-- The claim of a position pays that request and leaves the others in their order. -/
def PaysPosition (now : ℤ) (queue : List UnbondRequest) (index : ℕ) (amount : ℤ) : Prop :=
  claimRequests now index queue = (amount, queue.eraseIdx index)

/-- The front request with nothing matured behind it, or the second of two equal front requests. -/
def AloneInFront (now : ℤ) (queue : List UnbondRequest) (index : ℕ) : Prop :=
  (index = 0 ∧ ∀ request, queue[1]? = some request → ¬request.Matured now) ∨
    (index = 1 ∧ queue[0]? = queue[1]?)

/-- Whatever pays one request exactly takes exactly one from the queue. -/
theorem PaysPosition.length_eq_one {index : ℕ} {amount : ℤ} (hindex : index < queue.length)
    (h : PaysPosition now queue index amount) : (claimedRequests now index queue).length = 1 := by
  have hrest := congrArg (fun p : ℤ × List UnbondRequest => p.2.length) h
  simp only [claimRequests, List.length_drop, List.length_eraseIdx_of_lt hindex] at hrest
  have hle : (claimedRequests now index queue).length ≤ queue.length := by
    apply List.Sublist.length_le
    refine (List.takeWhile_sublist _).trans ?_
    split
    · exact List.Sublist.refl _
    · exact List.take_sublist _ _
  omega

/-- Claiming position zero asks for all that matured: exact if nothing behind it has. -/
theorem paysPosition_zero_iff {front : UnbondRequest} {rest : List UnbondRequest}
    (hmatured : front.Matured now) :
    PaysPosition now (front :: rest) 0 front.amount ↔
      ∀ request, rest[0]? = some request → ¬request.Matured now := by
  have hclaimed : claimedRequests now (0 : ℕ) (front :: rest) =
      front :: rest.takeWhile fun request => request.Matured now := by
    simp [claimedRequests, hmatured]
  have hnone : rest.takeWhile (fun request => request.Matured now) = [] ↔
      ∀ request, rest[0]? = some request → ¬request.Matured now := by
    cases rest with
    | nil => simp
    | cons next rest => simp [List.takeWhile_cons]
  rw [← hnone]
  constructor
  · intro h
    have hone := h.length_eq_one (by simp)
    rw [hclaimed, List.length_cons, Nat.succ_inj, List.length_eq_zero_iff] at hone
    exact hone
  · intro hrest
    rw [PaysPosition, claimRequests, hclaimed, hrest]
    simp

/-- Claiming position one asks for one request, which is the front one. -/
theorem paysPosition_one_iff {front second : UnbondRequest} {rest : List UnbondRequest}
    (hmatured : second.Matured now) :
    PaysPosition now (front :: second :: rest) 1 second.amount ↔ front = second := by
  have hclaimed : claimedRequests now (1 : ℕ) (front :: second :: rest) =
      if front.Matured now then [front] else [] := by
    simp [claimedRequests, List.takeWhile_cons]
  constructor
  · intro h
    have hone := h.length_eq_one (by simp)
    have hrest := congrArg Prod.snd h
    simp only [claimRequests, hone, List.drop_succ_cons, List.drop_zero,
      List.eraseIdx_cons_succ, List.eraseIdx_cons_zero, List.cons.injEq] at hrest
    exact hrest.1.symm
  · rintro rfl
    rw [PaysPosition, claimRequests, hclaimed, if_pos hmatured]
    simp

/-- Claiming a later position never pays it alone: one request taken means an unmatured second one,
which would have to stay in the place of the front one. -/
theorem not_paysPosition_add_two {front second : UnbondRequest} {rest : List UnbondRequest}
    {index : ℕ} {amount : ℤ} (hindex : index < rest.length) :
    ¬PaysPosition now (front :: second :: rest) (index + 2) amount := by
  intro h
  have hone := h.length_eq_one (by simpa using hindex)
  have hrest := congrArg Prod.snd h
  simp only [claimRequests, hone, List.drop_succ_cons, List.drop_zero, List.eraseIdx_cons_succ,
    List.cons.injEq] at hrest
  obtain ⟨rfl, -⟩ := hrest
  have hreach : claimedRequests now ((index + 2 : ℕ) : ℤ) (second :: second :: rest) =
      (second :: second :: rest.take index).takeWhile fun request => request.Matured now := by
    have hne : ((index + 2 : ℕ) : ℤ) ≠ 0 := by omega
    rw [claimedRequests, if_neg hne, Int.toNat_natCast, List.take_succ_cons, List.take_succ_cons]
  rw [hreach] at hone
  by_cases hsecond : second.Matured now <;> simp [hsecond] at hone

/-- **When claiming a position is exact**, for a matured request. -/
theorem paysPosition_iff {index : ℕ} {request : UnbondRequest}
    (hrequest : queue[index]? = some request) (hmatured : request.Matured now) :
    PaysPosition now queue index request.amount ↔ AloneInFront now queue index := by
  match index, queue, hrequest with
  | 0, front :: rest, hrequest =>
      obtain rfl := Option.some.inj hrequest
      rw [paysPosition_zero_iff hmatured]
      simp [AloneInFront]
  | 1, front :: second :: rest, hrequest =>
      obtain rfl := Option.some.inj hrequest
      rw [paysPosition_one_iff hmatured]
      simp [AloneInFront]
  | index + 2, front :: second :: rest, hrequest =>
      obtain ⟨hindex, -⟩ := List.getElem?_eq_some_iff.mp hrequest
      have hindex : index < rest.length := by simpa using hindex
      exact iff_of_false (not_paysPosition_add_two hindex) (by simp [AloneInFront])

end claim

/-! ## Runs -/

/-- A new request at an operator, or a claim of a listed delegation by given call data. -/
inductive HubAction
  | request (operator : String) (request : UnbondRequest)
  | claim (now : ℤ) (delegation : Delegation) (data : String)

section runs

variable (viem : Viem) (rpc : StakingRpcClient) (delegator : String)
  (decodeClaim : String → Option (String × ℤ))

/-- The data of a ClaimDelegate for a delegation that is listed as Claimable at a time, with its
validator (as an object or by its address) and its index. -/
def ClaimsListed (hub : Hub) (now : ℤ) (delegation : Delegation) (data : String) : Prop :=
  ∃ reads validators ds, ReadsHub viem reads hub delegator validators ∧
    getDelegations viem reads (.ok validators) now delegator = .ok ds ∧
    delegation ∈ ds ∧ delegation.status = .claimable ∧
    ∃ base validator stakeAccount amount,
      ValidatorRef.address validator = delegation.validator.operatorAddress ∧
      buildCallData viem rpc
        (.claimDelegate base (some validator) (some delegation.delegationIndex) stakeAccount) =
          .ok { data, amount }

/-- What an action does to the queues. -/
def HubStep (hub : Hub) : HubAction → Hub → Prop
  | .request operator request, hub' =>
      hub' = Function.update hub operator (hub operator ++ [request])
  | .claim now delegation data, hub' =>
      ClaimsListed viem rpc delegator hub now delegation data ∧
        hub' = (applyCall decodeClaim now data hub).2

/-- A claim pays exactly the amount of its delegation and leaves every other request, of this and
of every other operator, in its order. -/
def PaysListed (hub : Hub) : HubAction → Prop
  | .request _ _ => True
  | .claim now delegation data =>
      applyCall decodeClaim now data hub =
        (delegation.amount, Function.update hub
          (viem.getAddress delegation.validator.operatorAddress)
          ((hub.queueOf viem delegation.validator).eraseIdx delegation.delegationIndex.toNat))

/-- A claim is of a front request with nothing matured behind it, or of the second of two equal
front requests. -/
def ClaimsAloneInFront (hub : Hub) : HubAction → Prop
  | .request _ _ => True
  | .claim now delegation _ =>
      AloneInFront now (hub.queueOf viem delegation.validator) delegation.delegationIndex.toNat

variable {viem rpc delegator decodeClaim}

/-- The call of a listed claim asks the contract of the delegation's operator for as many requests
as the position says. -/
theorem decodeClaim_of_listed (hdecode : DecodesClaims viem decodeClaim) {base : BaseTransaction}
    {validator : ValidatorRef} {index amount : ℤ} {stakeAccount : Option String} {data : String}
    (h : buildCallData viem rpc (.claimDelegate base (some validator) (some index) stakeAccount) =
      .ok { data, amount }) :
    decodeClaim data = some (viem.getAddress validator.address, index) := by
  obtain ⟨_, hvalidator, h⟩ := bind_eq_ok.mp h
  obtain rfl := Except.ok.inj hvalidator
  obtain ⟨operatorAddress, hoperator, h⟩ := bind_eq_ok.mp h
  obtain ⟨-, rfl⟩ := parseEvmAddress_eq_ok.mp hoperator
  obtain ⟨encoded, hencoded, h⟩ := bind_eq_ok.mp h
  cases Except.ok.inj h
  exact hdecode _ _ _ hencoded

/-- **Step**: a claim of a listed delegation is exact iff it is of the front alone. -/
theorem paysListed_iff (hdecode : DecodesClaims viem decodeClaim) {hub hub' : Hub}
    {action : HubAction} (hstep : HubStep viem rpc delegator decodeClaim hub action hub') :
    PaysListed viem decodeClaim hub action ↔ ClaimsAloneInFront viem hub action := by
  cases action with
  | request operator request => exact Iff.rfl
  | claim now delegation data =>
      obtain ⟨⟨reads, validators, ds, hreads, hds, hmem, hclaimable, base, validator, stakeAccount,
        amount, haddress, hdata⟩, -⟩ := hstep
      obtain ⟨index, request, hindex, hrequest, hamount, hmatured⟩ :=
        getDelegations_claimable hreads hds delegation hmem hclaimable
      have hcall := decodeClaim_of_listed hdecode hdata
      rw [haddress, hindex] at hcall
      have hinj := Function.update_injective hub
        (viem.getAddress delegation.validator.operatorAddress)
      simp only [PaysListed, ClaimsAloneInFront, applyCall, hcall, hindex, Int.toNat_natCast,
        Prod.mk.injEq, hinj.eq_iff, hamount]
      rw [← paysPosition_iff hrequest hmatured.le, PaysPosition, Prod.ext_iff]
      rfl

/-- **Claims of listed positions, in every run.** From whatever queues: the claims of a run pay
exactly what they name iff each is of the front alone in the state it is made in. -/
theorem claims_exact_iff (hdecode : DecodesClaims viem decodeClaim) {hub : Hub}
    {l : List (HubAction × Hub)} (hrun : Run (HubStep viem rpc delegator decodeClaim) hub l) :
    Guarded (PaysListed viem decodeClaim) hub l ↔ Guarded (ClaimsAloneInFront viem) hub l :=
  hrun.guarded_iff fun _ _ _ hstep => paysListed_iff hdecode hstep

end runs

/-! ### Two requests -/

/-- One BNB unbonded first, two BNB a day later, and four that are still locked. -/
def firstRequest : UnbondRequest := { amount := 10 ^ 18, unlockTime := 1700000000 }

@[inherit_doc firstRequest]
def secondRequest : UnbondRequest := { amount := 2 * 10 ^ 18, unlockTime := 1700086400 }

@[inherit_doc firstRequest]
def lockedRequest : UnbondRequest := { amount := 4 * 10 ^ 18, unlockTime := 1760000000 }

/-- The validator of the requests. -/
def claimValidator : Validator :=
  { id := operator, status := .active, name := "Legend", operatorAddress := operator
    creditAddress := otherAddress }

/-- The queues with given requests at that validator. -/
def claimHub (queue : List UnbondRequest) : Hub := Function.update (fun _ => []) operator queue

/-- Reads of those queues; no stake is active. -/
def claimReads (queue : List UnbondRequest) : DelegationRpcClient where
  getPendingUnbondDelegation := fun creditContracts _ =>
    .ok (creditContracts.map fun _ => { success := true, result := some queue.length })
  getPooledBNBData := fun creditContracts _ =>
    .ok (creditContracts.map fun _ => { success := true, result := some 0 })
  getUnbondRequestData := fun _ _ index =>
    match queue[index]? with
    | some request => .ok request
    | none => .error (.foreign "execution reverted")

/-- The arguments of `claim(address,uint256)` for the validator and a position below ten. -/
def claimParams (index : ℤ) : String :=
  "000000000000000000000000773760b0708a5cc369c346993a0c225d8e4043b1" ++
  "000000000000000000000000000000000000000000000000000000000000000" ++ toString index

/-- `viem` on those claims. -/
def claimViem : Viem :=
  { delegateViem with
    toFunctionSelector := fun functionSignature =>
      if functionSignature = "claim(address,uint256)" then "0xaad3ec96" else ""
    encodeAbiParameters := fun params =>
      if params = [.address operator, .uint256 0] then .ok ("0x" ++ claimParams 0)
      else if params = [.address operator, .uint256 1] then .ok ("0x" ++ claimParams 1)
      else .error (.foreign "no vector") }

/-- The contract's decoding of those claims. -/
def decodeClaimData (data : String) : Option (String × ℤ) :=
  if data = "0xaad3ec96" ++ claimParams 0 then some (operator, 0)
  else if data = "0xaad3ec96" ++ claimParams 1 then some (operator, 1)
  else none

/-- It decodes the claims it encodes. -/
theorem decodesClaims_claimViem : DecodesClaims claimViem decodeClaimData := by
  intro address index data h
  obtain ⟨args, hargs, h⟩ := bind_eq_ok.mp h
  obtain rfl := Except.ok.inj h
  simp only [claimViem] at hargs
  split at hargs
  · next hparams =>
      obtain ⟨rfl, rfl⟩ : address = operator ∧ index = 0 := by simpa using hparams
      obtain rfl := Except.ok.inj hargs
      decide +kernel
  · split at hargs
    · next hparams =>
        obtain ⟨rfl, rfl⟩ : address = operator ∧ index = 1 := by simpa using hparams
        obtain rfl := Except.ok.inj hargs
        decide +kernel
    · cases hargs

/-- The queue of the validator is the given one. -/
theorem queueOf_claimHub (queue : List UnbondRequest) :
    (claimHub queue).queueOf claimViem claimValidator = queue := by
  simp [Hub.queueOf, claimHub, claimViem, delegateViem, claimValidator]

/-- The reads are those of the StakeHub. -/
theorem readsHub_claimReads (queue : List UnbondRequest) :
    ReadsHub claimViem (claimReads queue) (claimHub queue) signerAddress [claimValidator] := by
  constructor
  · intro results h
    obtain rfl := Except.ok.inj h
    exact List.Forall₂.cons (fun _ => by rw [queueOf_claimHub]) List.Forall₂.nil
  · intro v hv index request h
    obtain rfl := List.mem_singleton.mp hv
    rw [queueOf_claimHub]
    simp only [claimReads] at h
    split at h
    · next heq => rw [heq, Except.ok.inj h]
    · cases h

/-- The ClaimDelegate of a position, and its call data. -/
theorem claimsListed_claimHub {queue : List UnbondRequest} {now : ℤ} {ds : List Delegation}
    (hds : getDelegations claimViem (claimReads queue) (.ok [claimValidator]) now signerAddress =
      .ok ds) {d : Delegation} (hd : d ∈ ds) (hstatus : d.status = .claimable)
    (hvalidator : d.validator = claimValidator) (hindex : d.delegationIndex = 0) :
    ClaimsListed claimViem noShares signerAddress (claimHub queue) now d
      ("0xaad3ec96" ++ claimParams 0) := by
  refine ⟨claimReads queue, [claimValidator], ds, readsHub_claimReads queue, hds, hd, hstatus,
    { chain := { id := "bsc-mainnet", chainId := some "56" }, amount := 0,
      account := some signerAddress }, .validator claimValidator, none, 0, ?_, ?_⟩
  · rw [hvalidator]
    rfl
  · rw [hindex]
    decide +kernel

/-- The delegation of a request at the front. -/
def frontDelegation (request : UnbondRequest) : Delegation :=
  unbondDelegation claimValidator 1750000000000 request 0

/-- A matured request in front of a locked one is paid exactly, and the other is left in place. -/
theorem firstRequest_paid :
    PaysListed claimViem decodeClaimData (claimHub [firstRequest, lockedRequest])
      (.claim 1750000000000 (frontDelegation firstRequest) ("0xaad3ec96" ++ claimParams 0)) := by
  have hlisted : getDelegations claimViem (claimReads [firstRequest, lockedRequest])
      (.ok [claimValidator]) 1750000000000 signerAddress = .ok [frontDelegation firstRequest,
        unbondDelegation claimValidator 1750000000000 lockedRequest 1] := by decide +kernel
  have hclaims := claimsListed_claimHub hlisted List.mem_cons_self (by decide) (by decide)
    (by decide)
  have hrun : Run (HubStep claimViem noShares signerAddress decodeClaimData)
      (claimHub [firstRequest, lockedRequest]) [(.claim 1750000000000
        (frontDelegation firstRequest) ("0xaad3ec96" ++ claimParams 0), _)] :=
    Run.cons ⟨hclaims, rfl⟩ (Run.nil _)
  refine ((claims_exact_iff decodesClaims_claimViem hrun).mpr ⟨Or.inl ⟨by decide, ?_⟩, trivial⟩).1
  intro request hrequest
  have hnext : ((claimHub [firstRequest, lockedRequest]).queueOf claimViem claimValidator)[1]? =
      some request :=
    hrequest
  rw [queueOf_claimHub] at hnext
  obtain rfl : lockedRequest = request := Option.some.inj hnext
  decide

/-- **Two paid for one**: with two matured requests, both listed as Claimable, the claim of the
first one pays three BNB instead of one and leaves nothing of the second. -/
theorem claims_payTwo :
    getDelegations claimViem (claimReads [firstRequest, secondRequest]) (.ok [claimValidator])
        1750000000000 signerAddress =
      .ok [frontDelegation firstRequest,
        unbondDelegation claimValidator 1750000000000 secondRequest 1] ∧
    (frontDelegation firstRequest).amount = 10 ^ 18 ∧
    ClaimsListed claimViem noShares signerAddress (claimHub [firstRequest, secondRequest])
      1750000000000 (frontDelegation firstRequest) ("0xaad3ec96" ++ claimParams 0) ∧
    (applyCall decodeClaimData 1750000000000 ("0xaad3ec96" ++ claimParams 0)
        (claimHub [firstRequest, secondRequest])).1 = 3 * 10 ^ 18 ∧
    (applyCall decodeClaimData 1750000000000 ("0xaad3ec96" ++ claimParams 0)
        (claimHub [firstRequest, secondRequest])).2 operator = [] ∧
    ¬PaysListed claimViem decodeClaimData (claimHub [firstRequest, secondRequest])
      (.claim 1750000000000 (frontDelegation firstRequest) ("0xaad3ec96" ++ claimParams 0)) := by
  have hlisted : getDelegations claimViem (claimReads [firstRequest, secondRequest])
      (.ok [claimValidator]) 1750000000000 signerAddress = .ok [frontDelegation firstRequest,
        unbondDelegation claimValidator 1750000000000 secondRequest 1] := by decide +kernel
  have hpaid : (applyCall decodeClaimData 1750000000000 ("0xaad3ec96" ++ claimParams 0)
      (claimHub [firstRequest, secondRequest])).1 = 3 * 10 ^ 18 := by decide +kernel
  refine ⟨hlisted, by decide, claimsListed_claimHub hlisted (by simp) (by decide) (by decide)
    (by decide), hpaid, by decide +kernel, fun h => ?_⟩
  have hamount := hpaid.symm.trans (congrArg Prod.fst h)
  exact absurd hamount (by decide)

end GuardianStake.Bsc
