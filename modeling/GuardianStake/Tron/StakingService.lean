import GuardianStake.Tron.Types
import GuardianStake.Found.Share

/-!
# Tron delegations

`services/staking-service.ts`: how `getDelegations` lays an account out as Active, Frozen, Pending
and Claimable entries. The witness list behind the validators (its loading, the APR figures, the
staking summary) is a parameter: no amount depends on it.

* `sum_scaleVotesToFrozen` — the scaled votes add up to the effectively voted amount.
* `scaleVotesToFrozen_nonneg` — none of them is negative, so that dropping the entries without
  backing drops zeros only.
* `sum_splitRemainderByResource` — the chunks add up to the unvoted remainder.
* `totalWithStatus_delegationsOf` — **the amounts of a status**, part by part.
-/

namespace GuardianStake.Tron

open Sdk Found

/-! ## The code -/

/-- Source: `services/staking-service.ts`, `votesToSun`. -/
def votesToSun (votes : ℤ) : ℤ := votes * sunPerTrx

/-- Source: `services/staking-service.ts`, `buildValidator`, of the fields a validator has here. -/
def buildValidator (id name description operatorAddress : String) : Validator :=
  { id, status := .inactive, name, description, operatorAddress, creditAddress := "" }

/-- Source: `services/staking-service.ts`, `placeholderValidator`. -/
def placeholderValidator (resource : TronResource) : Validator :=
  buildValidator s!"tron-frozen-{resource.toLowerText}" "Frozen — vote to earn rewards"
    (s!"Staked for {resource.toText}. Vote for a Super Representative to start earning TRX "
      ++ "rewards.") ""

/-- Source: `services/staking-service.ts`, `unknownSrValidator`. -/
def unknownSrValidator (srAddress : String) : Validator :=
  buildValidator srAddress srAddress "Super Representative not in the current witness list"
    srAddress

/-- Source: `services/staking-service.ts`, `ScaledVote`. -/
structure ScaledVote where
  srAddress : String
  amount : ℤ
  deriving DecidableEq, Repr

/-- The mapping of `scaleVotesToFrozen` from some vote on, with its running `scaledSoFar`. -/
def scaleFrom (totalFrozen totalVoted effectiveVoted : ℤ) :
    (scaledSoFar : ℤ) → List Vote → List ScaledVote
  | _, [] => []
  | scaledSoFar, vote :: rest =>
      let rawAmount := votesToSun vote.votes
      let amount :=
        if ¬totalFrozen < totalVoted then rawAmount
        else if rest.isEmpty then effectiveVoted - scaledSoFar
        else (rawAmount * totalFrozen).tdiv totalVoted
      { srAddress := vote.srAddress, amount } ::
        scaleFrom totalFrozen totalVoted effectiveVoted (scaledSoFar + amount) rest

/-- Source: `services/staking-service.ts`, `scaleVotesToFrozen`. -/
def scaleVotesToFrozen (votes : List Vote) (totalFrozen totalVoted effectiveVoted : ℤ) :
    List ScaledVote :=
  scaleFrom totalFrozen totalVoted effectiveVoted 0 votes

/-- The comparator of `largestFirst`. -/
def compareFrozen (a b : Frozen) : ℤ :=
  if a.amount < b.amount then 1 else if b.amount < a.amount then -1 else 0

/-- The loop of `splitRemainderByResource`. -/
def takeChunks : (left : ℤ) → List Frozen → List Frozen
  | _, [] => []
  | left, f :: rest =>
      if left ≤ 0 then []
      else
        let chunk := if f.amount < left then f.amount else left
        let chunks := takeChunks (left - chunk) rest
        if 0 < chunk then { resource := f.resource, amount := chunk } :: chunks else chunks

/-- Source: `services/staking-service.ts`, `splitRemainderByResource`. -/
def splitRemainderByResource (frozen : List Frozen) (remainder : ℤ) : List Frozen :=
  takeChunks remainder (sort compareFrozen frozen)

/-- A delegation before its index is assigned. -/
structure DelegationPart where
  id : String
  validator : Validator
  amount : ℤ
  status : DelegationStatus
  pendingUntil : ℤ
  deriving DecidableEq, Repr

/-- A part with its index. -/
def DelegationPart.withIndex (part : DelegationPart) (i : ℕ) : Delegation :=
  { id := part.id, validator := part.validator, amount := part.amount, status := part.status,
    delegationIndex := i, pendingUntil := part.pendingUntil }

/-- The sum of all votes in SUN. -/
def TronAccount.totalVoted (account : TronAccount) : ℤ :=
  (account.votes.map fun v => votesToSun v.votes).sum

/-- The local `effectiveVoted`. -/
def TronAccount.effectiveVoted (account : TronAccount) : ℤ :=
  if account.totalVoted ≤ account.totalFrozen then account.totalVoted else account.totalFrozen

section parts

variable (enriched : String → Option Validator) (address : String) (now : ℤ)
  (account : TronAccount)

/-- The local `activeParts`. -/
def activeParts : List DelegationPart :=
  ((scaleVotesToFrozen account.votes account.totalFrozen account.totalVoted
      account.effectiveVoted).filter fun v => 0 < v.amount).map fun v =>
    { id := s!"{address}:{v.srAddress}"
      validator := (enriched v.srAddress).getD (unknownSrValidator v.srAddress)
      amount := v.amount
      status := .active
      pendingUntil := 0 }

/-- The local `frozenParts`. -/
def frozenParts : List DelegationPart :=
  (splitRemainderByResource account.frozen (account.totalFrozen - account.effectiveVoted)).map
    fun r =>
      { id := s!"{address}:frozen-{r.resource.toText}"
        validator := placeholderValidator r.resource
        amount := r.amount
        status := .frozen
        pendingUntil := 0 }

/-- The local `unfreezeParts`. -/
def unfreezeParts : List DelegationPart :=
  (account.unfreezing.filter fun u => 0 < u.amount).map fun u =>
    { id := s!"{address}:unfreeze-{u.resource.toText}-{u.expireTime}"
      validator := placeholderValidator u.resource
      amount := u.amount
      status := if u.expireTime ≤ now then .claimable else .pending
      pendingUntil := u.expireTime }

/-- The delegations of an account. -/
def delegationsOf : List Delegation :=
  (activeParts enriched address account ++ frozenParts address account
    ++ unfreezeParts address now account).zipIdx.map fun p => p.1.withIndex p.2

end parts

/-- Source: `services/staking-service.ts`, `getDelegations`, without the staking summary. `load`
gives the validators of the Super Representatives the account has voted for. -/
def getDelegations (isAddress : String → Bool) (rpc : TronRpcClient)
    (load : TronAccount → Result (String → Option Validator)) (now : ℤ) (address : String) :
    Result (List Delegation) := do
  assertValidAddress isAddress address
  let account ← rpc.getAccount address
  let enriched ← load account
  return delegationsOf enriched address now account

/-! ## The sums of the parts -/

section sums

variable {account : TronAccount}

/-- Without need for scaling every vote keeps its raw amount. -/
theorem scaleFrom_of_le {totalFrozen totalVoted effectiveVoted : ℤ} (h : totalVoted ≤ totalFrozen)
    (scaledSoFar : ℤ) (votes : List Vote) :
    (scaleFrom totalFrozen totalVoted effectiveVoted scaledSoFar votes).map ScaledVote.amount =
      votes.map fun v => votesToSun v.votes := by
  induction votes generalizing scaledSoFar with
  | nil => rfl
  | cons v rest ih => simp [scaleFrom, not_lt.mpr h, ih]

/-- With scaling the effectively voted amount is handed out: floored shares, and the rest to the
last vote. -/
theorem scaleFrom_of_lt {totalFrozen totalVoted effectiveVoted : ℤ} (h : totalFrozen < totalVoted)
    (scaledSoFar : ℤ) (votes : List Vote) :
    (scaleFrom totalFrozen totalVoted effectiveVoted scaledSoFar votes).map ScaledVote.amount =
      handOut (fun v => (votesToSun v.votes * totalFrozen).tdiv totalVoted) effectiveVoted
        scaledSoFar votes := by
  induction votes generalizing scaledSoFar with
  | nil => rfl
  | cons v rest ih =>
      cases rest with
      | nil => simp [scaleFrom, handOut, h]
      | cons w rest =>
          rw [scaleFrom, handOut, List.map_cons, ih]
          simp [h]

theorem totalVoted_nonneg (hacc : account.NonNegative) : 0 ≤ account.totalVoted :=
  List.sum_nonneg fun x hx => by
    obtain ⟨v, hv, rfl⟩ := List.mem_map.mp hx
    exact mul_nonneg (hacc.votes v hv) (by decide)

theorem effectiveVoted_le (account : TronAccount) :
    account.effectiveVoted ≤ account.totalFrozen := by
  unfold TronAccount.effectiveVoted
  split <;> omega

theorem effectiveVoted_nonneg (hacc : account.NonNegative) : 0 ≤ account.effectiveVoted := by
  have hvoted := totalVoted_nonneg hacc
  have hfrozen := hacc.totalFrozen_nonneg
  unfold TronAccount.effectiveVoted
  split <;> omega

/-- The account's votes, scaled. -/
def scaledAmounts (account : TronAccount) : List ℤ :=
  (scaleVotesToFrozen account.votes account.totalFrozen account.totalVoted
    account.effectiveVoted).map ScaledVote.amount

/-- The scaled votes add up to the effectively voted amount. -/
theorem sum_scaleVotesToFrozen (hacc : account.NonNegative) :
    (scaledAmounts account).sum = account.effectiveVoted := by
  rcases le_or_gt account.totalVoted account.totalFrozen with h | h
  · rw [scaledAmounts, scaleVotesToFrozen, scaleFrom_of_le h, TronAccount.effectiveVoted, if_pos h]
    rfl
  · have hne : account.votes ≠ [] := by
      intro hnil
      have hzero : account.totalVoted = 0 := by simp [TronAccount.totalVoted, hnil]
      have hfrozen := hacc.totalFrozen_nonneg
      omega
    rw [scaledAmounts, scaleVotesToFrozen, scaleFrom_of_lt h, ← zero_add (List.sum _)]
    exact sum_handOut 0 hne

/-- No scaled vote is negative. -/
theorem scaleVotesToFrozen_nonneg (hacc : account.NonNegative) :
    ∀ m ∈ scaledAmounts account, 0 ≤ m := by
  have hraw : ∀ v ∈ account.votes, 0 ≤ votesToSun v.votes := fun v hv =>
    mul_nonneg (hacc.votes v hv) (by decide)
  have hfrozen := hacc.totalFrozen_nonneg
  rcases le_or_gt account.totalVoted account.totalFrozen with h | h
  · rw [scaledAmounts, scaleVotesToFrozen, scaleFrom_of_le h]
    intro m hm
    obtain ⟨v, hv, rfl⟩ := List.mem_map.mp hm
    exact hraw v hv
  · have hvoted : 0 < account.totalVoted := hfrozen.trans_lt h
    rw [scaledAmounts, scaleVotesToFrozen, scaleFrom_of_lt h]
    refine forall_mem_handOut (P := fun m => 0 ≤ m) 0 (fun v hv => ?_) ?_
    · exact Int.tdiv_nonneg (mul_nonneg (hraw v hv) hfrozen) hvoted.le
    · -- what is left for the last vote: the floors before it stay within the frozen total
      have heff : account.effectiveVoted = account.totalFrozen := if_neg (not_le.mpr h)
      have hsub : (account.votes.dropLast.map fun v => votesToSun v.votes).sum ≤
          account.totalVoted := by
        apply List.Sublist.sum_le_sum ((List.dropLast_sublist _).map _)
        intro x hx
        obtain ⟨v, hv, rfl⟩ := List.mem_map.mp hx
        exact hraw v hv
      have hfloor := sum_floor_le (w := fun v : Vote => votesToSun v.votes) hfrozen hvoted hsub
      have htdiv : (account.votes.dropLast.map fun v =>
          (votesToSun v.votes * account.totalFrozen).tdiv account.totalVoted) =
            account.votes.dropLast.map fun v =>
              votesToSun v.votes * account.totalFrozen / account.totalVoted := by
        apply List.map_congr_left
        intro v hv
        exact Int.tdiv_eq_ediv_of_nonneg
          (mul_nonneg (hraw v ((List.dropLast_sublist _).subset hv)) hfrozen)
      rw [htdiv, heff]
      omega

/-- The loop over the frozen resources fills them up. -/
theorem takeChunks_eq_fill (left : ℤ) (l : List Frozen) :
    takeChunks left l =
      (fill Frozen.amount left l).map fun p => { resource := p.1.resource, amount := p.2 } := by
  induction l generalizing left with
  | nil => rfl
  | cons f l ih =>
      have hchunk : (if f.amount < left then f.amount else left) = min f.amount left := by
        rcases lt_or_ge f.amount left with h | h
        · rw [if_pos h, min_eq_left h.le]
        · rw [if_neg (not_lt.mpr h), min_eq_right h]
      simp only [takeChunks, fill, hchunk]
      split_ifs <;> simp [ih]

/-- The chunks are positive. -/
theorem splitRemainderByResource_pos (frozen : List Frozen) (remainder : ℤ) :
    ∀ r ∈ splitRemainderByResource frozen remainder, 0 < r.amount := by
  intro r hr
  rw [splitRemainderByResource, takeChunks_eq_fill] at hr
  obtain ⟨p, hp, rfl⟩ := List.mem_map.mp hr
  exact (mem_fill hp).2.1

/-- The chunks add up to the remainder. -/
theorem sum_splitRemainderByResource {frozen : List Frozen} (hfrozen : ∀ f ∈ frozen, 0 ≤ f.amount)
    {remainder : ℤ} (h0 : 0 ≤ remainder) (hle : remainder ≤ (frozen.map Frozen.amount).sum) :
    ((splitRemainderByResource frozen remainder).map Frozen.amount).sum = remainder := by
  rw [splitRemainderByResource, takeChunks_eq_fill, List.map_map]
  apply sum_fill (fun f hf => hfrozen f (mem_sort.mp hf)) h0
  rwa [((perm_sort compareFrozen frozen).map Frozen.amount).sum_eq]

/-- Dropping zeros leaves a sum as it is. -/
theorem sum_filter_pos_of_nonneg {α : Type} (w : α → ℤ) {l : List α} (hl : ∀ a ∈ l, 0 ≤ w a) :
    ((l.filter fun a => 0 < w a).map w).sum = (l.map w).sum := by
  induction l with
  | nil => rfl
  | cons a l ih =>
      have hrest := ih fun b hb => hl b (List.mem_cons_of_mem _ hb)
      rw [List.filter_cons, List.map_cons, List.sum_cons, ← hrest]
      rcases (hl a List.mem_cons_self).lt_or_eq with hpos | hzero
      · simp [hpos]
      · simp [← hzero]

end sums

/-! ## The amounts of a status -/

/-- The amounts of the parts with a given status, summed. -/
def partsWithStatus (status : DelegationStatus) (parts : List DelegationPart) : ℤ :=
  ((parts.filter fun p => p.status = status).map DelegationPart.amount).sum

theorem partsWithStatus_append (status : DelegationStatus) (ps qs : List DelegationPart) :
    partsWithStatus status (ps ++ qs) = partsWithStatus status ps + partsWithStatus status qs := by
  simp [partsWithStatus]

/-- Indices do not change amounts. -/
theorem totalWithStatus_withIndex (status : DelegationStatus) (parts : List DelegationPart)
    (start : ℕ) :
    totalWithStatus status ((parts.zipIdx start).map fun p => p.1.withIndex p.2) =
      partsWithStatus status parts := by
  induction parts generalizing start with
  | nil => rfl
  | cons p parts ih =>
      have hrest := ih (start + 1)
      unfold totalWithStatus partsWithStatus at hrest ⊢
      rw [List.zipIdx_cons, List.map_cons, List.filter_cons, List.filter_cons]
      by_cases hp : p.status = status
      · simp [DelegationPart.withIndex, hp, ← hrest]
      · simp [DelegationPart.withIndex, hp, ← hrest]

/-- Parts that all have one status. -/
theorem partsWithStatus_of_forall {status status' : DelegationStatus} {parts : List DelegationPart}
    (h : ∀ p ∈ parts, p.status = status') :
    partsWithStatus status parts =
      if status' = status then (parts.map DelegationPart.amount).sum else 0 := by
  unfold partsWithStatus
  split
  · next heq => rw [List.filter_eq_self.mpr fun p hp => by simp [h p hp, heq]]
  · next hne =>
      have hnone : parts.filter (fun p => p.status = status) = [] :=
        List.filter_eq_nil_iff.mpr fun p hp => by simp [h p hp, hne]
      rw [hnone]
      rfl

section delegations

variable {account : TronAccount} (enriched : String → Option Validator) (address : String)
  (now : ℤ)

/-- **The amounts of a status**: what the parts with that status hold. -/
theorem totalWithStatus_delegationsOf (status : DelegationStatus) :
    totalWithStatus status (delegationsOf enriched address now account) =
      (if DelegationStatus.active = status then
          ((activeParts enriched address account).map DelegationPart.amount).sum else 0) +
        (if DelegationStatus.frozen = status then
          ((frozenParts address account).map DelegationPart.amount).sum else 0) +
        partsWithStatus status (unfreezeParts address now account) := by
  have hactive : ∀ p ∈ activeParts enriched address account, p.status = .active := by
    intro p hp
    obtain ⟨v, -, rfl⟩ := List.mem_map.mp hp
    rfl
  have hfrozen : ∀ p ∈ frozenParts address account, p.status = .frozen := by
    intro p hp
    obtain ⟨r, -, rfl⟩ := List.mem_map.mp hp
    rfl
  rw [delegationsOf, totalWithStatus_withIndex, partsWithStatus_append, partsWithStatus_append,
    partsWithStatus_of_forall hactive, partsWithStatus_of_forall hfrozen]

/-- The Active entries hold the effectively voted amount. -/
theorem sum_activeParts (hacc : account.NonNegative) :
    ((activeParts enriched address account).map DelegationPart.amount).sum =
      account.effectiveVoted := by
  have hnonneg : ∀ v ∈ scaleVotesToFrozen account.votes account.totalFrozen account.totalVoted
      account.effectiveVoted, 0 ≤ v.amount := fun v hv =>
    scaleVotesToFrozen_nonneg hacc _ (List.mem_map_of_mem hv)
  have hsum := sum_scaleVotesToFrozen hacc
  rw [scaledAmounts, ← sum_filter_pos_of_nonneg ScaledVote.amount hnonneg] at hsum
  rw [activeParts, List.map_map]
  exact hsum

/-- The Frozen entries hold the rest of what is frozen. -/
theorem sum_frozenParts (hacc : account.NonNegative) :
    ((frozenParts address account).map DelegationPart.amount).sum =
      account.totalFrozen - account.effectiveVoted := by
  have hle := effectiveVoted_le account
  have h0 := effectiveVoted_nonneg hacc
  rw [frozenParts, List.map_map]
  apply sum_splitRemainderByResource hacc.frozen (by omega)
  show _ ≤ account.totalFrozen
  omega

/-- The unfreezing entries of a status hold what the unfreezing amounts of that status do. -/
theorem partsWithStatus_unfreezeParts (hacc : account.NonNegative) (status : DelegationStatus)
    (p : Unfreezing → Bool)
    (hp : ∀ u : Unfreezing,
      (if u.expireTime ≤ now then DelegationStatus.claimable else .pending) = status ↔ p u = true) :
    partsWithStatus status (unfreezeParts address now account) =
      ((account.unfreezing.filter p).map Unfreezing.amount).sum := by
  have hsame : (account.unfreezing.filter p).filter (fun u => 0 < u.amount) =
      (account.unfreezing.filter fun u => 0 < u.amount).filter p := by
    rw [List.filter_filter, List.filter_filter]
    exact List.filter_congr fun u _ => Bool.and_comm _ _
  rw [← sum_filter_pos_of_nonneg Unfreezing.amount fun u hu =>
    hacc.unfreezing u (List.mem_of_mem_filter hu), hsame, partsWithStatus, unfreezeParts,
    List.filter_map, List.map_map]
  refine congrArg List.sum (congrArg _ (List.filter_congr fun u _ => ?_))
  rw [Bool.eq_iff_iff]
  exact decide_eq_true_iff.trans (hp u)

/-- Every entry is worth something. -/
theorem delegationsOf_pos : ∀ d ∈ delegationsOf enriched address now account, 0 < d.amount := by
  intro d hd
  obtain ⟨p, hp, rfl⟩ := List.mem_map.mp hd
  have hmem := List.fst_mem_of_mem_zipIdx hp
  show 0 < p.1.amount
  rcases List.mem_append.mp hmem with hmem | hmem
  · rcases List.mem_append.mp hmem with hmem | hmem
    · obtain ⟨v, hv, hpart⟩ := List.mem_map.mp hmem
      rw [← hpart]
      simpa using (List.mem_filter.mp hv).2
    · obtain ⟨r, hr, hpart⟩ := List.mem_map.mp hmem
      rw [← hpart]
      exact splitRemainderByResource_pos _ _ r hr
  · obtain ⟨u, hu, hpart⟩ := List.mem_map.mp hmem
    rw [← hpart]
    simpa using (List.mem_filter.mp hu).2

end delegations

end GuardianStake.Tron
