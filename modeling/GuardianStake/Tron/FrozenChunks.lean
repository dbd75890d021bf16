import GuardianStake.Tron.TxBuilder

/-!
# The Frozen entries of an account

`getDelegations` lists the unvoted Tron Power as Frozen entries, one for a resource, each an amount
to unstake. The checks of `validations.ts` look at the same account in their own ways.

* `filter_frozen_delegationsOf` — the Frozen entries are the chunks of
  `splitRemainderByResource`.
* `assertUnfreeze_eq_ok_iff` — what is accepted as an amount to unstake.
* `getDelegations_frozenChunks` — **the entries and the checks agree**: each entry can be unstaked
  from its resource, together they are the votable power, and only the last one is short of what is
  frozen.
-/

namespace GuardianStake.Tron

open Sdk Found

/-! ### The entries -/

section entries

variable {account : TronAccount} (enriched : String → Option Validator) (address : String)
  (now : ℤ)

/-- An entry as a consumer tells it from others, with its amount. -/
def entryOf (d : Delegation) : String × Validator × ℤ := (d.id, d.validator, d.amount)

/-- The entries of the parts with one status, without their indices. -/
theorem filter_status_withIndex (status : DelegationStatus) (parts : List DelegationPart)
    (start : ℕ) :
    (((parts.zipIdx start).map fun p => p.1.withIndex p.2).filter fun d =>
        d.status = status).map entryOf =
      (parts.filter fun p => p.status = status).map fun p => (p.id, p.validator, p.amount) := by
  induction parts generalizing start with
  | nil => rfl
  | cons p parts ih =>
      have hrest := ih (start + 1)
      rw [List.zipIdx_cons, List.map_cons, List.filter_cons, List.filter_cons]
      by_cases hp : p.status = status
      · simp [DelegationPart.withIndex, hp, entryOf, ← hrest]
      · simp [DelegationPart.withIndex, hp, ← hrest]

/-- The chunks of an account. -/
def TronAccount.frozenChunks (account : TronAccount) : List Frozen :=
  splitRemainderByResource account.frozen (account.totalFrozen - account.effectiveVoted)

/-- The Frozen entries are the chunks. -/
theorem filter_frozen_delegationsOf :
    ((delegationsOf enriched address now account).filter fun d => d.status = .frozen).map entryOf =
      account.frozenChunks.map fun r =>
        (s!"{address}:frozen-{r.resource.toText}", placeholderValidator r.resource, r.amount) := by
  have hactive : (activeParts enriched address account).filter (fun p => p.status = .frozen) =
      [] := by
    apply List.filter_eq_nil_iff.mpr
    intro p hp
    obtain ⟨v, -, rfl⟩ := List.mem_map.mp hp
    simp
  have hunfreeze : (unfreezeParts address now account).filter (fun p => p.status = .frozen) =
      [] := by
    apply List.filter_eq_nil_iff.mpr
    intro p hp
    obtain ⟨u, -, rfl⟩ := List.mem_map.mp hp
    simp only
    split <;> simp
  have hfrozen : (frozenParts address account).filter (fun p => p.status = .frozen) =
      frozenParts address account := by
    apply List.filter_eq_self.mpr
    intro p hp
    obtain ⟨r, -, rfl⟩ := List.mem_map.mp hp
    simp
  rw [delegationsOf, filter_status_withIndex, List.filter_append, List.filter_append, hactive,
    hunfreeze, hfrozen, List.nil_append, List.append_nil, frozenParts, List.map_map]
  rfl

end entries

/-! ### The chunks -/

section chunks

variable {account : TronAccount}

/-- What is accepted as an amount to unstake: a positive one within the first entry of the
resource. -/
theorem assertUnfreeze_eq_ok_iff {resource : TronResource} {amount : ℤ} :
    assertUnfreeze account resource amount = .ok () ↔
      0 < amount ∧ amount ≤
        ((account.frozen.find? fun f => f.resource = resource).map Frozen.amount).getD 0 := by
  unfold assertUnfreeze
  rw [guard_eq_ok, not_le]
  apply and_congr_right
  intro _
  split
  · next hlt => simp [throw, throwThe, MonadExceptOf.throw, hlt]
  · next hge => simp [pure, Except.pure, not_lt.mp hge]

/-- Where each resource occurs once, the entry found for a resource is the one it has. -/
theorem find?_resource_eq (hdistinct : (account.frozen.map Frozen.resource).Nodup) {f : Frozen}
    (hf : f ∈ account.frozen) :
    account.frozen.find? (fun g => g.resource = f.resource) = some f := by
  cases hfind : account.frozen.find? fun g => g.resource = f.resource with
  | none =>
      have hother := List.find?_eq_none.mp hfind f hf
      simp at hother
  | some g =>
      have hresource : g.resource = f.resource := by simpa using List.find?_some hfind
      rw [List.inj_on_of_nodup_map hdistinct (List.mem_of_find?_eq_some hfind) hf hresource]

/-- A chunk belongs to a frozen entry and stays within it. -/
theorem mem_frozenChunks {r : Frozen} (hr : r ∈ account.frozenChunks) :
    0 < r.amount ∧ ∃ f ∈ account.frozen, f.resource = r.resource ∧ r.amount ≤ f.amount := by
  unfold TronAccount.frozenChunks at hr
  rw [splitRemainderByResource, takeChunks_eq_fill] at hr
  obtain ⟨p, hp, rfl⟩ := List.mem_map.mp hr
  obtain ⟨hmem, hpos, hle⟩ := mem_fill hp
  exact ⟨hpos, p.1, mem_sort.mp hmem, rfl, hle⟩

/-- No resource has two chunks. -/
theorem nodup_frozenChunks (hdistinct : (account.frozen.map Frozen.resource).Nodup) :
    (account.frozenChunks.map Frozen.resource).Nodup := by
  unfold TronAccount.frozenChunks
  rw [splitRemainderByResource, takeChunks_eq_fill, List.map_map]
  have hsub : ((fill Frozen.amount (account.totalFrozen - account.effectiveVoted)
      (sort compareFrozen account.frozen)).map Prod.fst).Sublist
        (sort compareFrozen account.frozen) :=
    map_fst_fill_sublist _ _
  have hresources := hsub.map Frozen.resource
  rw [List.map_map] at hresources
  refine List.Nodup.sublist hresources ?_
  exact ((perm_sort compareFrozen account.frozen).map Frozen.resource).nodup_iff.mpr hdistinct

/-- Every chunk but the last is a frozen entry in full. -/
theorem mem_frozen_of_mem_dropLast {r : Frozen} (hr : r ∈ account.frozenChunks.dropLast) :
    r ∈ account.frozen := by
  unfold TronAccount.frozenChunks at hr
  rw [splitRemainderByResource, takeChunks_eq_fill, ← List.map_dropLast] at hr
  obtain ⟨p, hp, rfl⟩ := List.mem_map.mp hr
  have hmem := mem_sort.mp (mem_fill ((List.dropLast_sublist _).subset hp)).1
  rw [snd_eq_cap_of_mem_dropLast_fill hp]
  exact hmem

/-- The chunks add up to the votable power. -/
theorem sum_frozenChunks (hacc : account.NonNegative) :
    (account.frozenChunks.map Frozen.amount).sum = availableTronPower account := by
  have hle := effectiveVoted_le account
  have h0 := effectiveVoted_nonneg hacc
  have hsum := sum_splitRemainderByResource hacc.frozen
    (show 0 ≤ account.totalFrozen - account.effectiveVoted by omega)
    (show _ ≤ account.totalFrozen by omega)
  rw [TronAccount.frozenChunks, hsum, availableTronPower_eq]
  unfold TronAccount.effectiveVoted
  split <;> omega

/-- **The Frozen entries and the checks agree.** For an account with amounts that are not negative,
each resource once in `frozen`: the Frozen entries are chunks, at most one for a resource, each
positive and accepted as an amount to unstake from it; together they are the votable power; every
one but the last is a frozen entry in full; and no accepted vote exceeds their sum. -/
theorem getDelegations_frozenChunks {isAddress : String → Bool} {rpc : TronRpcClient}
    {load : TronAccount → Result (String → Option Validator)} {now : ℤ} {address : String}
    {delegations : List Delegation}
    (h : getDelegations isAddress rpc load now address = .ok delegations)
    (haccount : rpc.getAccount address = .ok account) (hacc : account.NonNegative)
    (hdistinct : (account.frozen.map Frozen.resource).Nodup) :
    ∃ chunks : List Frozen,
      (delegations.filter fun d => d.status = .frozen).map entryOf =
        chunks.map (fun r =>
          (s!"{address}:frozen-{r.resource.toText}", placeholderValidator r.resource, r.amount)) ∧
      (chunks.map Frozen.resource).Nodup ∧
      (∀ r ∈ chunks, 0 < r.amount ∧ assertUnfreeze account r.resource r.amount = .ok ()) ∧
      (chunks.map Frozen.amount).sum = availableTronPower account ∧
      (∀ r ∈ chunks.dropLast, r ∈ account.frozen) ∧
      ∀ witnesses srAddress amount, assertVote account witnesses srAddress amount = .ok () →
        amount ≤ (chunks.map Frozen.amount).sum := by
  obtain ⟨_, _, h⟩ := bind_eq_ok.mp h
  obtain ⟨read, hread, h⟩ := bind_eq_ok.mp h
  obtain rfl := Except.ok.inj (haccount.symm.trans hread)
  obtain ⟨enriched, -, h⟩ := bind_eq_ok.mp h
  obtain rfl := Except.ok.inj h
  refine ⟨account.frozenChunks, filter_frozen_delegationsOf enriched address now,
    nodup_frozenChunks hdistinct, fun r hr => ?_, sum_frozenChunks hacc,
    fun r hr => mem_frozen_of_mem_dropLast hr, fun witnesses srAddress amount hvote => ?_⟩
  · obtain ⟨hpos, f, hf, hresource, hle⟩ := mem_frozenChunks hr
    refine ⟨hpos, assertUnfreeze_eq_ok_iff.mpr ⟨hpos, ?_⟩⟩
    rw [← hresource, find?_resource_eq hdistinct hf]
    exact hle
  · rw [sum_frozenChunks hacc]
    exact (assertVote_eq_ok hvote).2.2

end chunks

/-- 7 TRX frozen for bandwidth and 5 for energy, with 4 votes cast. -/
def halfVotedAccount : TronAccount :=
  { balance := 0
    frozen := [{ resource := .energy, amount := 5000000 },
      { resource := .bandwidth, amount := 7000000 }]
    unfreezing := []
    votes := [{ srAddress := "TGj1Ej1qRzL9feLTLhjwgxXF4Ct6GTWg2U", votes := 4 }] }

/-- A client that reads it. -/
def halfVotedRpc : TronRpcClient where
  getAccount := fun _ => .ok halfVotedAccount
  getReward := fun _ => .ok 0
  getTransactionFee := .ok none
  getAccountResources := fun _ =>
    .ok { freeNetLimit := 600, freeNetUsed := 0, netLimit := 0, netUsed := 0 }

/-- The unvoted 8 TRX are the 7 of bandwidth and one of energy. -/
theorem getDelegations_frozenChunks_halfVoted :
    (delegationsOf (fun _ => none) "TZ4UXDV5ZhNW7fb2AMSbgfAEZ7hWsnYS2g" 0
        halfVotedAccount).map entryOf =
      [("TZ4UXDV5ZhNW7fb2AMSbgfAEZ7hWsnYS2g:TGj1Ej1qRzL9feLTLhjwgxXF4Ct6GTWg2U",
          unknownSrValidator "TGj1Ej1qRzL9feLTLhjwgxXF4Ct6GTWg2U", 4000000),
        ("TZ4UXDV5ZhNW7fb2AMSbgfAEZ7hWsnYS2g:frozen-BANDWIDTH",
          placeholderValidator .bandwidth, 7000000),
        ("TZ4UXDV5ZhNW7fb2AMSbgfAEZ7hWsnYS2g:frozen-ENERGY",
          placeholderValidator .energy, 1000000)] ∧
      ∃ chunks : List Frozen, (chunks.map Frozen.resource).Nodup ∧
        (∀ r ∈ chunks, assertUnfreeze halfVotedAccount r.resource r.amount = .ok ()) ∧
        (chunks.map Frozen.amount).sum = 8000000 := by
  have hload : getDelegations (fun _ => true) halfVotedRpc (fun _ => .ok fun _ => none) 0
      "TZ4UXDV5ZhNW7fb2AMSbgfAEZ7hWsnYS2g" = .ok (delegationsOf (fun _ => none)
        "TZ4UXDV5ZhNW7fb2AMSbgfAEZ7hWsnYS2g" 0 halfVotedAccount) := rfl
  obtain ⟨chunks, -, hnodup, haccepted, hsum, -⟩ := getDelegations_frozenChunks hload rfl
    ⟨by decide, by decide, by decide⟩ (by decide)
  have hpower : availableTronPower halfVotedAccount = 8000000 := by decide
  exact ⟨by decide +kernel, chunks, hnodup, fun r hr => (haccepted r hr).2, hsum.trans hpower⟩

end GuardianStake.Tron
