import GuardianStake.Found.Transition
import GuardianStake.Tron.TxBuilder

/-!
# What a vote does to earlier votes

`assertVote` measures a new vote against the *unvoted* Tron Power, as if votes added up; the
contract that `buildUnsignedTx` asks for carries one entry, and the chain replaces the whole vote
list of an account by what a contract carries.

* `applyVoteWitness` — the chain's rule.
* `Accepted.applied` — what an accepted vote leaves: one entry, worth the amount.
* `Accepted.keepsVotes_iff` — an accepted vote keeps the earlier votes iff there are none.
* `run_keepsVotes_iff` — **runs of votes**: the voted power is the sum of the voted amounts
  throughout iff every vote of the run is cast by an account without votes.
-/

namespace GuardianStake.Tron

open Sdk Found

/-! ## Accounts and the chain's rule -/

/-- An account as a FullNode reports it: amounts are not negative, and the frozen ones, `int64`
counters of SUN, add up to one. -/
structure TronAccount.Reported (account : TronAccount) : Prop extends account.NonNegative where
  totalFrozen_lt : account.totalFrozen < 2 ^ 63

/-- The votes of an account for a Super Representative. -/
def TronAccount.votesFor (account : TronAccount) (srAddress : String) : ℤ :=
  ((account.votes.filter fun v => v.srAddress = srAddress).map Vote.votes).sum

/-- The votes a contract carries, as the chain stores them; only integers can be stored. -/
def toVote : String × Number → Option Vote
  | (srAddress, .int votes) => some { srAddress, votes }
  | (_, .other _) => none

/-- The chain's rule for VoteWitness: the votes carried replace the account's vote list. -/
def applyVoteWitness (account : TronAccount) : TronContract → Option TronAccount
  | .vote votes _ => (votes.mapM toVote).map fun votes => { account with votes }
  | _ => none

/-- The earlier votes survive, and the voted power grows by the amount. -/
structure KeepsVotes (before after : TronAccount) (amount : ℤ) : Prop where
  kept : ∀ srAddress, before.votesFor srAddress ≤ after.votesFor srAddress
  grown : after.totalVoted = before.totalVoted + amount

/-- A Vote that `estimateFee` accepts when the node reports `account` for its sender, and the
contract `buildUnsignedTx` makes of it. -/
structure Accepted (isAddress : String → Bool) (account : TronAccount) (base : BaseTransaction)
    (validator : ValidatorRef) (contract : TronContract) : Prop where
  estimated : ∃ rpc getWitnessMap fee,
    (∀ address, base.account = some address → rpc.getAccount address = .ok account) ∧
      estimateFee isAddress rpc getWitnessMap (.vote base validator) = .ok fee
  built : ∃ ownerAddress, buildUnsignedTx (.vote base validator) ownerAddress = .ok contract

/-! ## One vote -/

section step

variable {isAddress : String → Bool} {account account' : TronAccount} {base : BaseTransaction}
  {validator : ValidatorRef} {contract : TronContract}

/-- An accepted amount is a positive whole number of TRX within the unvoted power. -/
theorem Accepted.amount_le (h : Accepted isAddress account base validator contract) :
    0 < base.amount ∧ base.amount.tmod sunPerTrx = 0 ∧
      base.amount ≤ account.totalFrozen - account.totalVoted := by
  obtain ⟨⟨rpc, getWitnessMap, fee, hrpc, hfee⟩, -⟩ := h
  obtain ⟨address, read, witnesses, haddress, hread, hvote⟩ := estimateFee_vote_eq_ok hfee
  obtain rfl : account = read := Except.ok.inj ((hrpc address haddress).symm.trans hread)
  obtain ⟨hpos, hwhole, hpower⟩ := assertVote_eq_ok hvote
  refine ⟨hpos, hwhole, ?_⟩
  rw [availableTronPower_eq] at hpower
  omega

/-- **What an accepted vote leaves**: one entry for the validator named, worth the amount. -/
theorem Accepted.applied (hacc : account.Reported)
    (h : Accepted isAddress account base validator contract) :
    applyVoteWitness account contract =
        some { account with votes := [⟨validator.address, base.amount.tdiv sunPerTrx⟩] } ∧
      base.amount.tdiv sunPerTrx * sunPerTrx = base.amount := by
  obtain ⟨hpos, hwhole, hpower⟩ := h.amount_le
  obtain ⟨-, ownerAddress, hbuilt⟩ := h
  have hvoted := totalVoted_nonneg hacc.toNonNegative
  have hfrozen := hacc.totalFrozen_lt
  have hexact : base.amount.tdiv sunPerTrx * sunPerTrx = base.amount :=
    Int.tdiv_mul_cancel (Int.dvd_of_tmod_eq_zero hwhole)
  -- an int64 of SUN is fewer whole TRX than a double holds exactly
  have hsafe : |base.amount.tdiv sunPerTrx| ≤ maxSafeInteger := by
    rw [abs_le]
    simp only [sunPerTrx, maxSafeInteger] at hexact ⊢
    constructor <;> omega
  refine ⟨?_, hexact⟩
  rw [buildUnsignedTx_vote_eq_ok hbuilt, toNumber_of_safe hsafe]
  rfl

/-- An account without voted power has no vote worth anything. -/
theorem votesFor_eq_zero (hacc : account.NonNegative) (hvoted : account.totalVoted = 0)
    (srAddress : String) : account.votesFor srAddress = 0 := by
  have hnonneg : ∀ x ∈ account.votes.map fun v => votesToSun v.votes, 0 ≤ x := by
    intro x hx
    obtain ⟨v, hv, rfl⟩ := List.mem_map.mp hx
    exact mul_nonneg (hacc.votes v hv) (by decide)
  apply List.sum_eq_zero
  intro x hx
  obtain ⟨v, hv, rfl⟩ := List.mem_map.mp hx
  have hmem := List.mem_map_of_mem (f := fun v => votesToSun v.votes) (List.mem_of_mem_filter hv)
  have hzero := List.all_zero_of_le_zero_le_of_sum_eq_zero hnonneg hvoted hmem
  simp only [votesToSun, sunPerTrx] at hzero
  omega

/-- After an accepted vote the voted power is the amount. -/
theorem Accepted.totalVoted_applied (hacc : account.Reported)
    (h : Accepted isAddress account base validator contract)
    (happly : applyVoteWitness account contract = some account') :
    account'.totalVoted = base.amount := by
  obtain ⟨happlied, hexact⟩ := h.applied hacc
  obtain rfl := Option.some.inj (happlied.symm.trans happly)
  simp [TronAccount.totalVoted, votesToSun, hexact]

/-- An accepted vote leads to an account a node can report. -/
theorem Accepted.reported_applied (hacc : account.Reported)
    (h : Accepted isAddress account base validator contract)
    (happly : applyVoteWitness account contract = some account') : account'.Reported := by
  obtain ⟨happlied, hexact⟩ := h.applied hacc
  obtain rfl := Option.some.inj (happlied.symm.trans happly)
  obtain ⟨hpos, -, -⟩ := h.amount_le
  refine ⟨⟨hacc.frozen, hacc.unfreezing, fun v hv => ?_⟩, hacc.totalFrozen_lt⟩
  obtain rfl := List.mem_singleton.mp hv
  simp only [sunPerTrx] at hexact ⊢
  omega

/-- **An accepted vote keeps the earlier votes iff there are none.** -/
theorem Accepted.keepsVotes_iff (hacc : account.Reported)
    (h : Accepted isAddress account base validator contract)
    (happly : applyVoteWitness account contract = some account') :
    KeepsVotes account account' base.amount ↔ account.totalVoted = 0 := by
  have htotal := h.totalVoted_applied hacc happly
  constructor
  · intro hkeeps
    have := hkeeps.grown
    omega
  · intro hvoted
    refine ⟨fun srAddress => ?_, by omega⟩
    rw [votesFor_eq_zero hacc.toNonNegative hvoted]
    apply List.sum_nonneg
    intro x hx
    obtain ⟨v, hv, rfl⟩ := List.mem_map.mp hx
    exact (h.reported_applied hacc happly).votes v (List.mem_of_mem_filter hv)

end step

/-! ## Runs of votes -/

/-- An account and the amounts it has voted so far, summed. -/
structure VotingState where
  account : TronAccount
  voted : ℤ
  deriving DecidableEq, Repr

/-- What happens to an account: a Vote of the SDK, or anything that leaves the votes alone. -/
inductive VotingAction
  | vote (base : BaseTransaction) (validator : ValidatorRef)
  | other
  deriving DecidableEq, Repr

/-- One step of an account. A vote is an accepted one, applied by the chain's rule; other steps are
freezing, unfreezing, withdrawing and transfers. -/
inductive VotingStep (isAddress : String → Bool) :
    VotingState → VotingAction → VotingState → Prop
  | vote {s : VotingState} {account' : TronAccount} {base : BaseTransaction}
      {validator : ValidatorRef} {contract : TronContract}
      (haccepted : Accepted isAddress s.account base validator contract)
      (happly : applyVoteWitness s.account contract = some account') :
      VotingStep isAddress s (.vote base validator) ⟨account', s.voted + base.amount⟩
  | other {s : VotingState} {account' : TronAccount} (hreported : account'.Reported)
      (hvotes : account'.votes = s.account.votes) :
      VotingStep isAddress s .other ⟨account', s.voted⟩

/-- The voted power is the sum of the voted amounts. -/
def VotingState.Agrees (s : VotingState) : Prop := s.account.totalVoted = s.voted

/-- A vote is cast by an account whose earlier votes are worth nothing. -/
def NoEarlierVotes (s : VotingState) : VotingAction → Prop
  | .vote .. => s.account.totalVoted = 0
  | .other => True

section run

variable {isAddress : String → Bool} {s t : VotingState} {a : VotingAction}

/-- Accounts stay as a node can report them. -/
theorem VotingStep.reported (hs : s.account.Reported) (h : VotingStep isAddress s a t) :
    t.account.Reported := by
  cases h with
  | vote haccepted happly => exact haccepted.reported_applied hs happly
  | other hreported _ => exact hreported

/-- The step lemma: a step keeps the agreement exactly if no earlier votes are lost in it. -/
theorem VotingStep.agrees_iff (hs : s.account.Reported) (hagrees : s.Agrees)
    (h : VotingStep isAddress s a t) : t.Agrees ↔ NoEarlierVotes s a := by
  rw [VotingState.Agrees] at hagrees
  cases h with
  | vote haccepted happly =>
      have htotal := haccepted.totalVoted_applied hs happly
      simp only [VotingState.Agrees, NoEarlierVotes, htotal]
      omega
  | other _ hvotes =>
      simp only [VotingState.Agrees, NoEarlierVotes, iff_true]
      rw [← hagrees, TronAccount.totalVoted, hvotes, TronAccount.totalVoted]

/-- **Runs of votes.** An accepted vote keeps the earlier votes, and adds its amount to the voted
power, iff there are no earlier votes; and over a run the voted power is the sum of the voted
amounts in every state reached iff every vote of the run is the first one. -/
theorem run_keepsVotes_iff :
    (∀ {account account' : TronAccount} {base : BaseTransaction} {validator : ValidatorRef}
        {contract : TronContract}, account.Reported →
      Accepted isAddress account base validator contract →
      applyVoteWitness account contract = some account' →
      (KeepsVotes account account' base.amount ↔ account.totalVoted = 0)) ∧
    ∀ {s : VotingState} {l : List (VotingAction × VotingState)}, s.account.Reported → s.Agrees →
      Run (VotingStep isAddress) s l →
      ((∀ p ∈ l, p.2.Agrees) ↔ Guarded NoEarlierVotes s l) := by
  refine ⟨fun hacc h happly => h.keepsVotes_iff hacc happly, fun {s l} hs hagrees hrun => ?_⟩
  have hreported : ∀ p ∈ l, p.2.account.Reported :=
    hrun.invariant (fun s a t hs h => VotingStep.reported hs h) hs
  have hguarded : (∀ p ∈ l, p.2.account.Reported ∧ p.2.Agrees) ↔ Guarded NoEarlierVotes s l :=
    hrun.forall_iff_guarded (P := fun s => s.account.Reported ∧ s.Agrees)
      (fun s a t ⟨hs, hagrees⟩ h =>
        ⟨fun ⟨_, ht⟩ => (h.agrees_iff hs hagrees).mp ht,
          fun hg => ⟨h.reported hs, (h.agrees_iff hs hagrees).mpr hg⟩⟩) ⟨hs, hagrees⟩
  rw [← hguarded]
  exact ⟨fun h p hp => ⟨hreported p hp, h p hp⟩, fun h p hp => (h p hp).2⟩

end run

/-! ### Two votes -/

/-- The owner of the account below. -/
def votingOwner : String := "TMVQGm1qAQYVdetCeGRRkTWYYrLXuHK2HC"

/-- 10 TRX frozen, nothing voted. -/
def frozenAccount : TronAccount :=
  { balance := 5000000, frozen := [{ resource := .bandwidth, amount := 10000000 }],
    unfreezing := [], votes := [] }

/-- A Vote of that owner. -/
def voteOf (amount : ℤ) : BaseTransaction :=
  { chain := { id := "tron-mainnet", chainId := none }, amount, account := some votingOwner }

/-- The two Super Representatives. -/
def firstSr : String := "TPL66VK2gCXNCD7EJg9pgJRfqcRazjhUZY"

@[inherit_doc firstSr]
def secondSr : String := "TLyqzVGLV1srkB7dToTAEqgDSfPtXRJZYH"

/-- A node that reports `account`, and its witness list. -/
def votingRpc (account : TronAccount) : TronRpcClient where
  getAccount := fun _ => .ok account
  getReward := fun _ => .ok 0
  getTransactionFee := .ok (some 1000)
  getAccountResources := fun _ => .ok ⟨600, 0, 0, 0⟩

@[inherit_doc votingRpc]
def votingWitnesses : List Validator :=
  [buildValidator firstSr firstSr "" firstSr, buildValidator secondSr secondSr "" secondSr]

/-- The owner's votes for a listed Super Representative are accepted within the unvoted power. -/
theorem accepted_voteOf {account : TronAccount} {amount : ℤ} {sr : String}
    (hfee : estimateFee (fun a => a = votingOwner) (votingRpc account) (.ok votingWitnesses)
      (.vote (voteOf amount) (.operatorAddress sr)) = .ok (.resourceFee 350 0 0))
    (hbuilt : buildUnsignedTx (.vote (voteOf amount) (.operatorAddress sr)) votingOwner =
      .ok (.vote [(sr, .int (amount.tdiv sunPerTrx))] votingOwner)) :
    Accepted (fun a => a = votingOwner) account (voteOf amount) (.operatorAddress sr)
      (.vote [(sr, .int (amount.tdiv sunPerTrx))] votingOwner) :=
  ⟨⟨votingRpc account, .ok votingWitnesses, _, fun _ _ => rfl, hfee⟩, votingOwner, hbuilt⟩

/-- The first vote: 4 TRX of power. -/
theorem accepted_firstVote : Accepted (fun a => a = votingOwner) frozenAccount (voteOf 4000000)
    (.operatorAddress firstSr) (.vote [(firstSr, .int 4)] votingOwner) :=
  accepted_voteOf (by decide +kernel) (by decide +kernel)

/-- The account after it. -/
def votedAccount : TronAccount :=
  { frozenAccount with votes := [{ srAddress := firstSr, votes := 4 }] }

/-- The second vote: 5 of the 6 TRX of power left, for the other Super Representative. -/
theorem accepted_secondVote : Accepted (fun a => a = votingOwner) votedAccount (voteOf 5000000)
    (.operatorAddress secondSr) (.vote [(secondSr, .int 5)] votingOwner) :=
  accepted_voteOf (by decide +kernel) (by decide +kernel)

/-- The account after both. -/
def revotedAccount : TronAccount :=
  { frozenAccount with votes := [{ srAddress := secondSr, votes := 5 }] }

theorem reported_frozenAccount : frozenAccount.Reported :=
  ⟨⟨by decide, by decide, by decide⟩, by decide⟩

/-- The first vote keeps what there was, and the one-vote run agrees. -/
theorem run_keepsVotes_firstVote : KeepsVotes frozenAccount votedAccount 4000000 ∧
    ∀ p ∈ [(VotingAction.vote (voteOf 4000000) (.operatorAddress firstSr),
      (⟨votedAccount, 4000000⟩ : VotingState))], p.2.Agrees := by
  obtain ⟨hstep, hrun⟩ := @run_keepsVotes_iff fun a => a = votingOwner
  refine ⟨(hstep reported_frozenAccount accepted_firstVote rfl).mpr (by decide), ?_⟩
  refine (hrun (s := ⟨frozenAccount, 0⟩) reported_frozenAccount rfl ?_).mpr ⟨rfl, trivial⟩
  exact .cons (.vote accepted_firstVote rfl) (.nil _)

/-- **The second vote destroys the first**: both are accepted, one after the other, and the account
is left without its 4 votes, with 5 TRX of voted power instead of 9. -/
theorem secondVote_dropsFirstVote :
    ∃ l, Run (VotingStep fun a => a = votingOwner) ⟨frozenAccount, 0⟩ l ∧
      lastState ⟨frozenAccount, 0⟩ l = ⟨revotedAccount, 9000000⟩ ∧
      revotedAccount.totalVoted = 5000000 ∧
      votedAccount.votesFor firstSr = 4 ∧ revotedAccount.votesFor firstSr = 0 ∧
      ¬KeepsVotes votedAccount revotedAccount 5000000 := by
  refine ⟨[(.vote (voteOf 4000000) (.operatorAddress firstSr), ⟨votedAccount, 4000000⟩),
    (.vote (voteOf 5000000) (.operatorAddress secondSr), ⟨revotedAccount, 9000000⟩)],
    .cons (.vote accepted_firstVote rfl) (.cons (.vote accepted_secondVote rfl) (.nil _)),
    rfl, by decide, by decide, by decide, fun h => ?_⟩
  exact absurd (h.kept firstSr) (by decide)

end GuardianStake.Tron
