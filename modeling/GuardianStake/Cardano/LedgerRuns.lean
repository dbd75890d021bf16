import GuardianStake.Cardano.Compile
import GuardianStake.Cardano.Ledger

/-!
# Runs of staking transactions on the ledger

A wallet whose staking transactions are signed here. Each is built from what a client reports at
some time, stays in flight, and is settled at any later time or never, while rewards and payments come
in and the parameters change.

* `SignedFor` — a transaction that is signed for a request.
* `Conserves` — what holds of a wallet throughout: value, tokens, and who chose the pool.
* `conserves_of_run` — **over every run, whatever the interleaving**.
* `settled_once_of_listing` — **of what is signed from one listing at most one is settled**, if the
  largest UTXO is on its first page.
-/

namespace GuardianStake.Cardano

open Sdk Found WalletLedger

/-! ## Transactions that are signed -/

section runs

variable (sdk : CardanoSdk) (account stakeKeyHashHex : String)

/-- A transaction that is signed for a request on a chain: the body that `sign` and `prehash` build
from a client that reports the wallet as it is. -/
def SignedFor (listed : List BlockfrostUtxo) (transaction : Transaction)
    (s : Chain TxInput String) (tx : Tx TxInput String) : Prop :=
  ∃ rpc rewardAccount active fee body,
    buildRewardAccount sdk stakeKeyHashHex = .ok rewardAccount ∧
      ReadsWallet sdk rpc account rewardAccount active listed s.protocol s.wallet ∧
      resolveBody sdk rpc transaction account stakeKeyHashHex fee = .ok body ∧
      body.onLedger sdk account stakeKeyHashHex rewardAccount = some tx

/-- The transactions that are signed on a chain. -/
def Signs (s : Chain TxInput String) (tx : Tx TxInput String) : Prop :=
  ∃ listed transaction, SignedFor sdk account stakeKeyHashHex listed transaction s tx

/-- What holds of a wallet, `w₀` to begin with, once some transactions are settled. -/
structure Conserves (w₀ : Wallet TxInput String) (s : Chain TxInput String) : Prop where
  /-- The wallet has paid the fees and nothing else. -/
  value : s.wallet.worth + (s.settled.map Tx.fee).sum =
    w₀.worth + coinsOf s.arrived + s.rewarded
  /-- Outputs with native tokens are still there. -/
  tokens : ∀ o, o ∈ w₀.outputs ∨ o ∈ s.arrived → o.coinsOnly = false → o ∈ s.wallet.outputs
  /-- Nothing is settled twice. -/
  once : s.settled.Nodup
  /-- The pool is the first one or one that a settled request asked for. -/
  pool : ∀ key pool, s.wallet.stakeKey = some key → key.pool = some pool →
    (∃ key₀, w₀.stakeKey = some key₀ ∧ key₀.pool = some pool) ∨
      ∃ tx ∈ s.settled, ∃ s' listed transaction,
        SignedFor sdk account stakeKeyHashHex listed transaction s' tx ∧
          requestedPool sdk transaction = .ok pool

variable {sdk account stakeKeyHashHex} {listed : List BlockfrostUtxo} {transaction : Transaction}
  {s : Chain TxInput String} {tx : Tx TxInput String} {w₀ : Wallet TxInput String}
  {protocol : Protocol}

/-- What is signed is drafted from the listing. -/
theorem SignedFor.drafted (h : SignedFor sdk account stakeKeyHashHex listed transaction s tx) :
    ∃ active fee pool chosen, Drafted sdk transaction active listed s.protocol
      (rewardsOf s.wallet.stakeKey) fee pool chosen tx := by
  obtain ⟨rpc, rewardAccount, active, fee, body, hreward, hreads, hbody, htx⟩ := h
  obtain ⟨tx', pool, chosen, htx', hdrafted⟩ := resolveBody_onLedger hreads hreward hbody
  obtain rfl := Option.some.inj (htx.symm.trans htx')
  exact ⟨active, fee, pool, chosen, hdrafted⟩

/-- What is signed pays nothing to others. -/
theorem Signs.paidToOthers (h : Signs sdk account stakeKeyHashHex s tx) : tx.paidToOthers = 0 := by
  obtain ⟨listed, transaction, h⟩ := h
  obtain ⟨active, fee, pool, chosen, hdrafted⟩ := h.drafted
  exact hdrafted.paidToOthers

/-- A pool that a signed transaction delegates to is the one its request asks for. -/
theorem SignedFor.requestedPool
    (h : SignedFor sdk account stakeKeyHashHex listed transaction s tx) {pool : String}
    (hpool : .delegate pool ∈ tx.certificates) : requestedPool sdk transaction = .ok pool := by
  obtain ⟨active, fee, pool', chosen, hdrafted⟩ := h.drafted
  rw [hdrafted.certificates] at hpool
  have hdelegates : (transaction.type = .delegate ∨ transaction.type = .redelegate) ∧
      pool = pool' := by
    cases htype : transaction.type with
    | delegate | redelegate =>
        rw [htype] at hpool
        cases active <;> simpa [certificatesFor] using hpool
    | undelegate | claimDelegate | claimRewards | vote =>
        rw [htype] at hpool
        simp [certificatesFor] at hpool
  rw [hdelegates.2]
  exact hdrafted.pool_eq hdelegates.1

/-- Settled transactions are distinct. -/
theorem nodup_settled (h : Inv w₀ s) : s.settled.Nodup := by
  refine h.apart.imp_of_mem fun {tx tx'} htx _ hdisjoint heq => ?_
  subst heq
  obtain ⟨r, hr⟩ := List.exists_mem_of_ne_nil _ (h.nonempty tx htx)
  exact hdisjoint hr hr

/-- **Over every run**, whatever is signed when, and in whatever order it is settled: the wallet pays
the fees and nothing else, keeps its tokens, and delegates where a request asked it to. -/
theorem conserves_of_run {l : List (Action TxInput String × Chain TxInput String)}
    (hnodup : (refsOf w₀.outputs).Nodup)
    (hrun : Run (Step (Signs sdk account stakeKeyHashHex)) (Chain.start protocol w₀) l) :
    ∀ step ∈ l, Conserves sdk account stakeKeyHashHex w₀ step.2 := by
  let P : Chain TxInput String → Prop := fun s =>
    Inv w₀ s ∧ ∀ tx ∈ s.made, ∃ s', Signs sdk account stakeKeyHashHex s' tx
  have hP : ∀ step ∈ l, P step.2 := by
    refine hrun.invariant (fun s a t hs hstep => ⟨hs.1.step hstep, makes_step hs.2 hstep⟩) ?_
    exact ⟨Inv.start protocol hnodup, by simp [Chain.start]⟩
  intro step hmem
  obtain ⟨hinv, hmade⟩ := hP step hmem
  refine ⟨?_, hinv.kept, nodup_settled hinv, ?_⟩
  · have hworth := hinv.worth
    have hfees : (step.2.settled.map fun tx => tx.fee + tx.paidToOthers) =
        step.2.settled.map Tx.fee := by
      apply List.map_congr_left
      intro tx htx
      obtain ⟨s', hsigns⟩ := hmade tx (hinv.made tx htx)
      rw [hsigns.paidToOthers, add_zero]
    rwa [hfees] at hworth
  · intro key pool hkey hpool
    rcases hinv.pool key pool hkey hpool with hfirst | ⟨tx, htx, hdelegates⟩
    · exact Or.inl hfirst
    · obtain ⟨s', listed, transaction, hsigned⟩ := hmade tx (hinv.made tx htx)
      exact Or.inr ⟨tx, htx, s', listed, transaction, hsigned, hsigned.requestedPool hdelegates⟩

/-! ## One listing -/

/-- What is chosen is the beginning of the pure-ADA UTXOs, largest first. -/
theorem chosenFrom_isPrefix (utxos : List BlockfrostUtxo) (target : ℤ) :
    chosenFrom utxos target <+: AddressHistory.largestFirst utxos := by
  have hcover : coverEntries utxos target <+: adaEntries utxos := cover_isPrefix _ _
  exact hcover.map Entry.utxo

/-- **The largest UTXO comes first** in every selection, however many pages it reads, if it is on the
first page. -/
theorem exists_largest {page : ℕ} {v : BlockfrostUtxo} (hv : v ∈ listed.take page)
    (hlargest : ∀ u ∈ listed, u.spendable ≤ v.spendable) :
    ∃ first, ∀ n target, page ≤ n → chosenFrom (listed.take n) target ≠ [] →
      first ∈ chosenFrom (listed.take n) target := by
  -- the first UTXO of the page that is as large as any
  have hne : (listed.take page).filter (fun u => u.spendable = v.spendable) ≠ [] :=
    List.ne_nil_of_mem (List.mem_filter.mpr ⟨hv, by simp⟩)
  obtain ⟨first, rest, hfirst⟩ := List.exists_cons_of_ne_nil hne
  refine ⟨first, fun n target hn hchosen => ?_⟩
  obtain ⟨x, tail, hcons⟩ := List.exists_cons_of_ne_nil hchosen
  obtain ⟨more, hmore⟩ := chosenFrom_isPrefix (listed.take n) target
  rw [hcons, List.cons_append] at hmore
  have hx : x ∈ AddressHistory.largestFirst (listed.take n) := hmore ▸ List.mem_cons_self
  have hperm := AddressHistory.perm_largestFirst (listed.take n)
  obtain ⟨hxlisted, hxpos⟩ := List.mem_filter.mp (hperm.mem_iff.mp hx)
  have hle : x.spendable ≤ v.spendable := hlargest x (List.mem_of_mem_take hxlisted)
  have hpos : 0 < v.spendable := lt_of_lt_of_le (of_decide_eq_true hxpos) hle
  have htaken : listed.take page <+: listed.take n := List.take_prefix_take_left hn
  -- which no selection passes over
  have hge : v.spendable ≤ x.spendable := by
    have hmem : v ∈ AddressHistory.largestFirst (listed.take n) :=
      hperm.mem_iff.mpr (List.mem_filter.mpr ⟨htaken.subset hv, by simpa using hpos⟩)
    have hsorted := AddressHistory.pairwise_largestFirst (listed.take n)
    rw [← hmore] at hmem hsorted
    rcases List.mem_cons.mp hmem with rfl | hmem
    · exact le_rfl
    · exact (List.pairwise_cons.mp hsorted).1 v hmem
  have hstable := AddressHistory.filter_largestFirst (listed.take n) hpos
  obtain ⟨later, hlater⟩ := htaken
  rw [← hlater, List.filter_append, hfirst, hlater, ← hmore,
    List.filter_cons_of_pos (by simp [le_antisymm hle hge]), List.cons_append] at hstable
  rw [hcons, ← (List.cons.inj hstable).1]
  exact List.mem_cons_self

/-- **Of what is signed from one listing at most one is settled**, in any run, for whatever requests
and at whatever times, if the largest UTXO is on the first page of the listing. -/
theorem settled_once_of_listing {l : List (Action TxInput String × Chain TxInput String)}
    (hnodup : (refsOf w₀.outputs).Nodup)
    (hrun : Run (Step (Signs sdk account stakeKeyHashHex)) (Chain.start protocol w₀) l)
    {v : BlockfrostUtxo} (hv : v ∈ listed.take defaultUtxoPageSize)
    (hlargest : ∀ u ∈ listed, u.spendable ≤ v.spendable)
    {transaction' : Transaction} {s' : Chain TxInput String} {tx' : Tx TxInput String}
    (h : SignedFor sdk account stakeKeyHashHex listed transaction s tx)
    (h' : SignedFor sdk account stakeKeyHashHex listed transaction' s' tx') :
    ∀ step ∈ l, tx ∈ step.2.settled → tx' ∈ step.2.settled → tx = tx' := by
  intro step hmem htx htx'
  have hinv : Inv w₀ step.2 := hrun.invariant (fun _ _ _ hs hstep => hs.step hstep)
    (Inv.start protocol hnodup) step hmem
  obtain ⟨first, hfirst⟩ := exists_largest hv hlargest
  -- both spend it
  have hspends : ∀ {transaction s tx},
      SignedFor sdk account stakeKeyHashHex listed transaction s tx → tx ∈ step.2.settled →
        first.toInput ∈ tx.inputs := by
    intro transaction s tx hsigned hsettled
    obtain ⟨active, fee, pool, chosen, hdrafted⟩ := hsigned.drafted
    obtain ⟨pages, hpages, -, rfl⟩ := hdrafted.chosen_eq
    have hnonempty := hinv.nonempty tx hsettled
    rw [hdrafted.inputs] at hnonempty ⊢
    apply List.mem_map_of_mem
    exact hfirst _ _ (Nat.le_mul_of_pos_left _ hpages) fun hnil => hnonempty (by simp [hnil])
  exact hinv.eq_of_common_input htx htx' (hspends h htx) (hspends h' htx')

end runs

/-! ### Two requests at a time -/

/-- The delegation of the wallet with 10 ADA, on the ledger. -/
def walletDelegateTx : Tx TxInput String where
  inputs := [{ txHashHex := vectorTxHash, index := 0 }]
  created := [{ ref := { txHashHex := walletBodyHash walletDelegateBody, index := 0 },
                coins := 9810109, coinsOnly := true }]
  paidToOthers := 0
  fee := 189891
  withdrawals := []
  certificates := [.delegate "0f292fcaa02b8b2f9b3c8f9fd8e0bb21abedb692a6d5058df3ef2735"]
  validBefore := some 100007200

/-- A claim of its rewards. -/
def walletClaimTx : Tx TxInput String where
  inputs := [{ txHashHex := vectorTxHash, index := 0 }]
  created := [{ ref := { txHashHex := walletBodyHash walletClaimBody, index := 0 },
                coins := 10982576, coinsOnly := true }]
  paidToOthers := 0
  fee := 17424
  withdrawals := [1000000]
  certificates := []
  validBefore := some 100007200

/-- The chain with both of them made. -/
def bothMade : Chain TxInput String :=
  { Chain.start walletProtocol walletOnLedger with made := [walletClaimTx, walletDelegateTx] }

/-- The chain with the delegation settled. -/
def delegateSettled : Chain TxInput String :=
  { bothMade with
    wallet :=
      { outputs := walletDelegateTx.created
        stakeKey := keyAfter 2000000 "0f292fcaa02b8b2f9b3c8f9fd8e0bb21abedb692a6d5058df3ef2735"
          walletOnLedger.stakeKey .delegate }
    used := refsOf walletDelegateTx.created ++ bothMade.used
    settled := [walletDelegateTx] }

theorem signedFor_walletDelegateTx :
    SignedFor walletSdk walletAddress walletCredentials.stakeKeyHashHex tenAda walletDelegate
      (Chain.start walletProtocol walletOnLedger) walletDelegateTx :=
  ⟨walletRpc mainnetParams tenAda, walletStakeAddress, true, 189891, walletDelegateBody,
    by decide +kernel, readsWallet_walletRpc, by decide +kernel, by decide +kernel⟩

theorem signedFor_walletClaimTx :
    SignedFor walletSdk walletAddress walletCredentials.stakeKeyHashHex tenAda walletClaim
      { Chain.start walletProtocol walletOnLedger with made := [walletDelegateTx] } walletClaimTx :=
  ⟨walletRpc mainnetParams tenAda, walletStakeAddress, true, 17424,
    { walletClaimBody with
      inputs := tenAda.map BlockfrostUtxo.toInput
      outputs := [{ address := walletAddress, coins := 10982576 }] },
    by decide +kernel, readsWallet_walletRpc, by decide +kernel, by decide +kernel⟩

/-- Both are made, and the delegation is settled. -/
theorem run_delegateSettled :
    Run (Step (Signs walletSdk walletAddress walletCredentials.stakeKeyHashHex))
      (Chain.start walletProtocol walletOnLedger)
      [(.make walletDelegateTx,
          { Chain.start walletProtocol walletOnLedger with made := [walletDelegateTx] }),
        (.make walletClaimTx, bothMade), (.settle walletDelegateTx, delegateSettled)] := by
  apply Run.cons (Step.make ⟨tenAda, walletDelegate, signedFor_walletDelegateTx⟩)
  apply Run.cons (Step.make ⟨tenAda, walletClaim, signedFor_walletClaimTx⟩)
  refine Run.cons (Step.settle (by simp [Chain.start]) (by decide) (by decide +kernel) ?_)
    (Run.nil _)
  decide +kernel

/-- After the delegation the wallet has paid its fee. -/
theorem conserves_delegateSettled :
    Conserves walletSdk walletAddress walletCredentials.stakeKeyHashHex walletOnLedger
      delegateSettled :=
  conserves_of_run (by decide) run_delegateSettled (.settle walletDelegateTx, delegateSettled)
    (by simp)

/-- The claim is not settled beside it. -/
theorem settled_once_delegateSettled :
    walletDelegateTx ∈ delegateSettled.settled ∧ walletClaimTx ∉ delegateSettled.settled := by
  have hdelegate : walletDelegateTx ∈ delegateSettled.settled := List.mem_singleton_self _
  refine ⟨hdelegate, fun hclaim => ?_⟩
  have heq := settled_once_of_listing (by decide) run_delegateSettled
    (v := adaUtxo vectorTxHash "10000000") (by decide) (by decide) signedFor_walletDelegateTx
    signedFor_walletClaimTx (.settle walletDelegateTx, delegateSettled) (by simp) hdelegate hclaim
  exact absurd heq (by decide)

end GuardianStake.Cardano
