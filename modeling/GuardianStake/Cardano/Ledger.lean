import GuardianStake.Cardano.LiveReads
import GuardianStake.Cardano.SignService
import GuardianStake.Cardano.QuotedFee
import GuardianStake.Found.WalletLedger

/-!
# What the ledger makes of a body

The bodies that `resolveBody` builds, put to the rules of the ledger. Fees are compared with the
minimum elsewhere (`estimateFee_covers_iff`), and so is the minimum of an output (`ChangeOutput`).

* `TxBody.onLedger` — a body as the ledger reads it, for the wallet of one base address.
* `ReadsWallet` — a client that reports the wallet as it is.
* `resolveBody_onLedger` — what a body consists of, in the ledger's terms.
* `Matches` — the account and the deposit are what the body takes them to be.
* `resolveBody_accepted_iff` — **a body is accepted exactly then**, and what it leaves.
-/

namespace GuardianStake.Cardano

open Sdk Found WalletLedger

/-! ## Bodies and UTXOs on the ledger -/

/-- The output a UTXO stands for. -/
def BlockfrostUtxo.output (utxo : BlockfrostUtxo) : Output TxInput :=
  { ref := utxo.toInput, coins := utxo.lovelaces, coinsOnly := utxo.isAdaOnly }

/-- A certificate, if it is about a stake key. -/
def ownCertificate (stakeKeyHashHex : String) : CardanoCertificate → Option (Certificate String)
  | .stakeRegistration key => if key = stakeKeyHashHex then some .register else none
  | .stakeDeregistration key => if key = stakeKeyHashHex then some .deregister else none
  | .stakeDelegation key pool => if key = stakeKeyHashHex then some (.delegate pool) else none

/-- What a withdrawal takes, if it is from a reward account. -/
def ownWithdrawal (rewardAccount : String) (entry : String × ℤ) : Option ℤ :=
  if entry.1 = rewardAccount then some entry.2 else none

/-- The outputs of a transaction at an address. -/
def createdAt (txHash address : String) (outputs : List TxOut) : List (Output TxInput) :=
  (outputs.zipIdx.filter fun o => o.1.address = address).map fun o =>
    { ref := { txHashHex := txHash, index := o.2 }, coins := o.1.coins, coinsOnly := true }

/-- The coins of the other outputs. -/
def paidElsewhere (address : String) (outputs : List TxOut) : ℤ :=
  ((outputs.filter fun o => o.address ≠ address).map TxOut.coins).sum

/-- One output, at the address itself. -/
theorem createdAt_own (txHash address : String) (coins : ℤ) :
    createdAt txHash address [{ address, coins }] =
      [{ ref := { txHashHex := txHash, index := 0 }, coins, coinsOnly := true }] := by
  simp [createdAt]

theorem paidElsewhere_own (address : String) (coins : ℤ) :
    paidElsewhere address [{ address, coins }] = 0 := by
  simp [paidElsewhere]

/-- A body as the ledger reads it, for the wallet with an address, a stake key and the reward account
of that key; none if the body is about another stake key. -/
def TxBody.onLedger (sdk : CardanoSdk) (account stakeKeyHashHex rewardAccount : String)
    (body : TxBody) : Option (Tx TxInput String) := do
  let withdrawals ← body.withdrawals.mapM (ownWithdrawal rewardAccount)
  let certificates ← body.certificates.mapM (ownCertificate stakeKeyHashHex)
  return {
    inputs := body.inputs
    created := createdAt (sdk.bodyHash body) account body.outputs
    paidToOthers := paidElsewhere account body.outputs
    fee := body.fee
    withdrawals
    certificates
    validBefore := body.invalidHereafter }

/-- The rewards of a stake key. -/
def rewardsOf (key : Option (StakeKey String)) : ℤ := (key.map StakeKey.rewards).getD 0

/-- A client that reports a wallet as the ledger holds it: the outputs as the UTXOs `listed`, page by
page, and the rewards. What it calls an active account is left open. -/
structure ReadsWallet (sdk : CardanoSdk) (rpc : BlockfrostRpcClient)
    (account rewardAccount : String) (active : Bool) (listed : List BlockfrostUtxo) (p : Protocol)
    (w : Wallet TxInput String) : Prop where
  wellFormed : ∀ u ∈ listed, u.WellFormed
  outputs : w.outputs = listed.map BlockfrostUtxo.output
  serves : ∀ page, 1 ≤ page → rpc.getUtxos account page defaultUtxoPageSize =
    .ok ((listed.drop ((page - 1) * defaultUtxoPageSize)).take defaultUtxoPageSize)
  params : ∀ protocolParams, rpc.getProtocolParams = .ok protocolParams →
    bigInt protocolParams.keyDeposit = .ok p.keyDeposit ∧
      minUtxoFor sdk account protocolParams = .ok p.minOutput
  slot : ∀ block, rpc.getLatestBlock = .ok block → block.slot = p.slot
  active : ∀ existing, rpc.getAccountOrNull rewardAccount = .ok existing →
    (existing.map BlockfrostAccount.active).getD false = active
  rewards : ∀ existing amount, rpc.getAccountOrNull rewardAccount = .ok existing →
    parseLovelaceString ((existing.map BlockfrostAccount.withdrawableAmount).getD "0")
      "withdrawable_amount" = .ok amount → amount = rewardsOf w.stakeKey

/-! ## What a body consists of -/

/-- The pool a delegation asks for. -/
def requestedPool (sdk : CardanoSdk) (transaction : Transaction) : Result String :=
  match transaction with
  | .redelegate _ _ _ toValidator => parsePoolId sdk toValidator.address
  | _ => do
      let validator ← assertValidator transaction
      parsePoolId sdk validator.address

/-- The certificates of a transaction, on the ledger: the account counts as registered if it is
active. -/
def certificatesFor (active : Bool) (pool : String) : TransactionType → List (Certificate String)
  | .delegate | .redelegate => if active then [.delegate pool] else [.register, .delegate pool]
  | .undelegate => [.deregister]
  | _ => []

section body

variable {sdk : CardanoSdk} {rpc : BlockfrostRpcClient} {transaction : Transaction}
  {account stakeKeyHashHex rewardAccount : String} {active : Bool} {listed : List BlockfrostUtxo}
  {p : Protocol} {w : Wallet TxInput String} {fee : ℤ} {body : TxBody}

/-- The certificates that are built are about the stake key, and the pool is the one asked for. -/
theorem mapM_ownCertificate {certificates : List CardanoCertificate}
    (h : buildCertificates sdk transaction stakeKeyHashHex active = .ok certificates) :
    ∃ pool, certificates.mapM (ownCertificate stakeKeyHashHex) =
        some (certificatesFor active pool transaction.type) ∧
      (transaction.type = .delegate ∨ transaction.type = .redelegate →
        requestedPool sdk transaction = .ok pool) := by
  cases transaction with
  | delegate base isMax validator resource =>
      obtain ⟨v, hv, h⟩ := bind_eq_ok.mp h
      obtain ⟨pool, hpool, h⟩ := bind_eq_ok.mp h
      obtain rfl := Except.ok.inj h
      refine ⟨pool, ?_, fun _ => ?_⟩
      · cases active <;> simp [delegationCertificates, ownCertificate, certificatesFor,
          Transaction.type]
      · exact bind_eq_ok.mpr ⟨v, hv, hpool⟩
  | redelegate base isMax fromValidator toValidator =>
      obtain ⟨pool, hpool, h⟩ := bind_eq_ok.mp h
      obtain rfl := Except.ok.inj h
      refine ⟨pool, ?_, fun _ => hpool⟩
      cases active <;> simp [delegationCertificates, ownCertificate, certificatesFor,
        Transaction.type]
  | undelegate base isMax validator resource stakeAccount =>
      obtain rfl := Except.ok.inj h
      refine ⟨"", ?_, by simp [Transaction.type]⟩
      simp [ownCertificate, certificatesFor, Transaction.type]
  | claimDelegate | claimRewards | vote =>
      obtain rfl := Except.ok.inj h
      exact ⟨"", rfl, by simp [Transaction.type]⟩

/-- The withdrawals that are built are from the reward account of the stake key. -/
theorem mapM_ownWithdrawal {rewardsOnChain : ℤ} {withdrawals : List (String × ℤ)}
    (hreward : buildRewardAccount sdk stakeKeyHashHex = .ok rewardAccount)
    (h : buildWithdrawals sdk transaction stakeKeyHashHex rewardsOnChain = .ok withdrawals) :
    withdrawals.mapM (ownWithdrawal rewardAccount) =
      some (if rewardAccountWithdrawal transaction rewardsOnChain ≤ 0 then []
        else [rewardAccountWithdrawal transaction rewardsOnChain]) := by
  unfold buildWithdrawals at h
  split_ifs with hle
  · simp only [if_pos hle] at h
    obtain rfl := Except.ok.inj h
    rfl
  · simp only [if_neg hle] at h
    obtain ⟨-, -, h⟩ := bind_eq_ok.mp h
    obtain ⟨account, haccount, h⟩ := bind_eq_ok.mp h
    obtain rfl := Except.ok.inj (hreward.symm.trans haccount)
    obtain rfl := Except.ok.inj h
    simp [ownWithdrawal]

/-- The UTXOs that a selection from a list spends. -/
def chosenFrom (utxos : List BlockfrostUtxo) (target : ℤ) : List BlockfrostUtxo :=
  (coverEntries utxos target).map Entry.utxo

/-- A selection is made of the UTXOs it spends. -/
theorem selectionOf_coverEntries (utxos : List BlockfrostUtxo) (target : ℤ) :
    selectionOf (coverEntries utxos target) =
      { inputs := (chosenFrom utxos target).map BlockfrostUtxo.toInput
        totalLovelaces := ((chosenFrom utxos target).map BlockfrostUtxo.lovelaces).sum } := by
  have hcover : coverEntries utxos target <+: adaEntries utxos := cover_isPrefix _ _
  rw [chosenFrom, ← map_lovelaces_eq fun e he => hcover.subset he, List.map_map]
  rfl

/-- **A selection from a listing**: a cover of the largest pure-ADA UTXOs of its first pages. -/
theorem ReadsWallet.selected (hreads : ReadsWallet sdk rpc account rewardAccount active listed p w)
    {seedPage : List BlockfrostUtxo} (hseed : rpc.getUtxos account 1 100 = .ok seedPage)
    {target : ℤ} {selected : SelectedUtxos}
    (h : selectUtxosPaged target (walletOptions rpc account seedPage) = .ok selected) :
    ∃ pages, 1 ≤ pages ∧ target ≤ spendableTotal (listed.take (pages * defaultUtxoPageSize)) ∧
      selected =
        { inputs := (chosenFrom (listed.take (pages * defaultUtxoPageSize)) target).map
            BlockfrostUtxo.toInput
          totalLovelaces := ((chosenFrom (listed.take (pages * defaultUtxoPageSize)) target).map
            BlockfrostUtxo.lovelaces).sum } := by
  let pages := fun page =>
    (listed.drop ((page - 1) * defaultUtxoPageSize)).take defaultUtxoPageSize
  have hwf : ∀ page, ∀ u ∈ pages page, u.WellFormed := fun page u hu =>
    hreads.wellFormed u (List.mem_of_mem_drop (List.mem_of_mem_take hu))
  have hfirst : seedPage = pages 1 := Except.ok.inj (hseed.symm.trans (hreads.serves 1 le_rfl))
  have hbatch : ∀ page, 1 ≤ page →
      (walletOptions rpc account seedPage).batch page = .ok (pages page) := by
    intro page hpage
    by_cases h1 : page = 1
    · simp [walletOptions, SelectUtxosPagedOptions.batch, h1, hfirst]
    · simp only [walletOptions, SelectUtxosPagedOptions.batch, if_neg h1]
      exact hreads.serves page hpage
  have h0 : 0 ≤ target := by
    by_contra hneg
    obtain ⟨message, herror⟩ := selectUtxosPaged_of_neg hwf hbatch (not_le.mp hneg)
    cases h.symm.trans herror
  have hfunds : target ≤ spendableTotal (pagesRead pages
      (scanEnd pages defaultUtxoPageSize defaultMaxUtxoPages)) := by
    by_contra hshort
    obtain ⟨message, herror⟩ := selectUtxosPaged_of_short hwf hbatch (not_le.mp hshort)
    cases h.symm.trans herror
  have hslices : ∀ k, pagesRead pages k = listed.take (k * defaultUtxoPageSize) :=
    pagesRead_slices listed defaultUtxoPageSize
  refine ⟨stopPage pages target defaultUtxoPageSize defaultMaxUtxoPages,
    firstPage_pos _ (by decide), ?_, ?_⟩
  · rw [← hslices]
    exact (le_spendableTotal_stopPage_iff hwf _ _ _).mpr hfunds
  · rw [← hslices, ← selectionOf_coverEntries]
    exact Except.ok.inj (h.symm.trans (selectUtxosPaged_of_funded hwf hbatch h0 hfunds))

end body

/-! ## A body in the ledger's terms -/

/-- What goes back to the wallet. -/
def changeOf (transaction : Transaction) (active : Bool) (keyDeposit rewards fee : ℤ)
    (chosen : List BlockfrostUtxo) : ℤ :=
  (chosen.map BlockfrostUtxo.lovelaces).sum - (fee + depositDue transaction active keyDeposit)
    + rewardAccountWithdrawal transaction rewards + keyDepositRefund transaction keyDeposit

/-- A transaction made from what a client reports: it spends the largest pure-ADA UTXOs of the pages
read, and what is left after the fee and the deposit goes back to the wallet. -/
structure Drafted (sdk : CardanoSdk) (transaction : Transaction) (active : Bool)
    (listed : List BlockfrostUtxo) (p : Protocol) (rewards fee : ℤ) (pool : String)
    (chosen : List BlockfrostUtxo) (tx : Tx TxInput String) : Prop where
  supported : needsAccount transaction = true
  chosen_eq : ∃ pages, 1 ≤ pages ∧
    fee + depositDue transaction active p.keyDeposit + p.minOutput ≤
      spendableTotal (listed.take (pages * defaultUtxoPageSize)) ∧
    chosen = chosenFrom (listed.take (pages * defaultUtxoPageSize))
      (fee + depositDue transaction active p.keyDeposit + p.minOutput)
  inputs : tx.inputs = chosen.map BlockfrostUtxo.toInput
  created : ∃ ref, tx.created = [{
    ref, coins := changeOf transaction active p.keyDeposit rewards fee chosen, coinsOnly := true }]
  minimum : p.minOutput ≤ changeOf transaction active p.keyDeposit rewards fee chosen
  fee_eq : tx.fee = fee
  paidToOthers : tx.paidToOthers = 0
  withdrawals : tx.withdrawals = if rewardAccountWithdrawal transaction rewards ≤ 0 then []
    else [rewardAccountWithdrawal transaction rewards]
  certificates : tx.certificates = certificatesFor active pool transaction.type
  validBefore : tx.validBefore = some (p.slot + ttlValiditySlots)
  pool_eq : transaction.type = .delegate ∨ transaction.type = .redelegate →
    requestedPool sdk transaction = .ok pool
  registered : transaction.type = .undelegate → active = true ∧ 0 ≤ rewards
  claims : transaction.type = .claimRewards → 0 < rewards

section drafted

variable {sdk : CardanoSdk} {rpc : BlockfrostRpcClient} {transaction : Transaction}
  {account stakeKeyHashHex rewardAccount : String} {active : Bool} {listed : List BlockfrostUtxo}
  {p : Protocol} {w : Wallet TxInput String} {fee : ℤ} {body : TxBody}

/-- What is read of the account: what the client calls active, and the rewards where a transaction
takes them. -/
theorem ReadsWallet.readAccount_eq
    (hreads : ReadsWallet sdk rpc account rewardAccount active listed p w)
    {existing : Option BlockfrostAccount} (hexisting : rpc.getAccountOrNull rewardAccount = .ok existing)
    {registered : Bool} {rewardsOnChain : ℤ}
    (h : readAccount transaction existing = .ok (registered, rewardsOnChain)) :
    registered = active ∧
      (transaction.type = .undelegate ∨ transaction.type = .claimRewards →
        rewardsOnChain = rewardsOf w.stakeKey ∧ 0 ≤ rewardsOnChain) := by
  have hactive := hreads.active existing hexisting
  simp only [readAccount] at h
  split_ifs at h with htakes
  · obtain ⟨amount, hamount, h⟩ := bind_eq_ok.mp h
    obtain ⟨rfl, rfl⟩ := Prod.mk.inj (Except.ok.inj h)
    exact ⟨hactive, fun _ =>
      ⟨hreads.rewards existing amount hexisting hamount, parseLovelaceString_nonneg hamount⟩⟩
  · obtain ⟨rfl, -⟩ := Prod.mk.inj (Except.ok.inj h)
    exact ⟨hactive, fun h => absurd h htakes⟩

/-- The amounts a transaction is selected for. -/
theorem ReadsWallet.target_eq
    (hreads : ReadsWallet sdk rpc account rewardAccount active listed p w)
    {protocolParams : BlockfrostProtocolParams} (hparams : rpc.getProtocolParams = .ok protocolParams)
    {t : SelectionTarget}
    (h : computeSelectionTarget sdk transaction fee protocolParams active account = .ok t) :
    t = { requiredLovelaces := fee + depositDue transaction active p.keyDeposit
          minUtxo := p.minOutput
          target := fee + depositDue transaction active p.keyDeposit + p.minOutput } := by
  obtain ⟨hkey, hmin⟩ := hreads.params protocolParams hparams
  obtain ⟨keyDeposit, hkey', hmin', htarget⟩ := computeSelectionTarget_isOk h
  obtain rfl := Except.ok.inj (hkey.symm.trans hkey')
  have ht := Except.ok.inj (h.symm.trans (htarget fee))
  rw [← Except.ok.inj (hmin.symm.trans hmin')] at ht
  exact ht

/-- **What a body consists of**, in the ledger's terms. -/
theorem resolveBody_onLedger
    (hreads : ReadsWallet sdk rpc account rewardAccount active listed p w)
    (hreward : buildRewardAccount sdk stakeKeyHashHex = .ok rewardAccount)
    (h : resolveBody sdk rpc transaction account stakeKeyHashHex fee = .ok body) :
    ∃ tx pool chosen, body.onLedger sdk account stakeKeyHashHex rewardAccount = some tx ∧
      Drafted sdk transaction active listed p (rewardsOf w.stakeKey) fee pool chosen tx := by
  obtain ⟨c, hc, h⟩ := bind_eq_ok.mp h
  obtain ⟨selected, hselected, h⟩ := bind_eq_ok.mp h
  obtain ⟨t, ht, hselected⟩ := bind_eq_ok.mp hselected
  obtain ⟨keyDeposit, t', certificates, withdrawals, hkey, ht', hcertificates, hwithdrawals, hmin,
    rfl⟩ := buildBody_eq_ok h
  obtain rfl : t = t' := Except.ok.inj (ht.symm.trans ht')
  -- the chain state is what the client reports
  obtain ⟨rewardAccount', existing, hreward', hparams, hseed, hexisting, hread⟩ :=
    resolveChainState_eq_ok hc
  obtain rfl : rewardAccount = rewardAccount' := Except.ok.inj (hreward.symm.trans hreward')
  obtain ⟨⟨block, hblock, httl⟩, hundelegate, hclaim⟩ := resolveChainState_checks hc
  obtain rfl := Except.ok.inj (hkey.symm.trans (hreads.params _ hparams).1)
  obtain ⟨_, _, _, hrequired, -⟩ := computeSelectionTarget_eq_ok.mp ht
  have hneeds := needsAccount_of_computeRequiredLovelaces hrequired
  obtain ⟨rfl, hrewards⟩ := hreads.readAccount_eq (hexisting hneeds) hread
  obtain rfl := hreads.target_eq hparams ht
  have hwithdrawal : rewardAccountWithdrawal transaction c.rewardsOnChain =
      rewardAccountWithdrawal transaction (rewardsOf w.stakeKey) := by
    unfold rewardAccountWithdrawal
    split_ifs with htakes
    · exact (hrewards htakes.symm).1
    · rfl
  -- the certificates, the withdrawals and the inputs
  obtain ⟨pool, hcerts, hpool⟩ := mapM_ownCertificate hcertificates
  have hwith := mapM_ownWithdrawal hreward hwithdrawals
  obtain ⟨pages, hpages, hfunds, rfl⟩ := hreads.selected hseed hselected
  rw [hwithdrawal] at hwith hmin
  refine ⟨_, pool, chosenFrom (listed.take (pages * defaultUtxoPageSize))
    (fee + depositDue transaction c.isStakeKeyRegistered p.keyDeposit + p.minOutput),
    by simp only [TxBody.onLedger, hwith, hcerts]; rfl, ?_⟩
  exact {
    supported := hneeds
    chosen_eq := ⟨pages, hpages, hfunds, rfl⟩
    inputs := rfl
    created := ⟨_, by rw [hwithdrawal]; exact createdAt_own _ _ _⟩
    minimum := hmin
    fee_eq := rfl
    paidToOthers := paidElsewhere_own _ _
    withdrawals := rfl
    certificates := rfl
    validBefore := by rw [httl, hreads.slot block hblock]
    pool_eq := hpool
    registered := fun htype => ⟨hundelegate htype, by
      obtain ⟨heq, h0⟩ := hrewards (Or.inl htype)
      exact heq ▸ h0⟩
    claims := fun htype => by
      have hpos := hclaim htype
      rwa [(hrewards (Or.inr htype)).1] at hpos }

end drafted

/-! ## When a body is accepted -/

/-- The account and the deposit are what the body takes them to be: for a delegation the account is
active exactly if the key is registered, for a deregistration the deposit paid is the present one. -/
def Matches (active : Bool) (keyDeposit : ℤ) (key : Option (StakeKey String)) :
    TransactionType → Prop
  | .delegate | .redelegate => active = key.isSome
  | .undelegate => ∃ k, key = some k ∧ k.deposit = keyDeposit
  | _ => True

/-- The stake key after a transaction. -/
def keyAfter (keyDeposit : ℤ) (pool : String) (key : Option (StakeKey String)) :
    TransactionType → Option (StakeKey String)
  | .delegate | .redelegate =>
      some { key.getD { deposit := keyDeposit, rewards := 0, pool := none } with pool := some pool }
  | .undelegate => none
  | _ => key.map fun k => { k with rewards := 0 }

section accepted

variable {sdk : CardanoSdk} {transaction : Transaction} {active : Bool}
  {listed chosen : List BlockfrostUtxo} {p : Protocol} {w after : Wallet TxInput String}
  {fee : ℤ} {pool : String} {tx : Tx TxInput String}

/-- What is chosen from a list is in it and pure ADA, and reaches the target. -/
theorem chosenFrom_spec {utxos : List BlockfrostUtxo} (hwf : ∀ u ∈ utxos, u.WellFormed)
    {target : ℤ} (hfunds : target ≤ spendableTotal utxos) :
    (chosenFrom utxos target).Subperm utxos ∧ (∀ u ∈ chosenFrom utxos target, u.isAdaOnly = true) ∧
      target ≤ ((chosenFrom utxos target).map BlockfrostUtxo.lovelaces).sum := by
  have hcover : coverEntries utxos target <+: adaEntries utxos := cover_isPrefix _ _
  refine ⟨?_, ?_, ?_⟩
  · exact (hcover.map Entry.utxo).sublist.subperm.trans (map_utxo_adaEntries_subperm utxos)
  · intro u hu
    obtain ⟨e, he, rfl⟩ := List.mem_map.mp hu
    obtain ⟨⟨v, -, rfl⟩, -, hada⟩ := mem_adaEntries.mp (hcover.subset he)
    exact hada
  · have hreach := le_sum_coverEntries hwf hfunds
    rwa [map_lovelaces_eq fun e he => hcover.subset he] at hreach

/-- The outputs spent by inputs that refer to chosen UTXOs are those UTXOs. -/
theorem spent_perm (hw : w.outputs = listed.map BlockfrostUtxo.output)
    (hnodup : (refsOf w.outputs).Nodup) (hsub : chosen.Subperm listed)
    (hinputs : tx.inputs = chosen.map BlockfrostUtxo.toInput) :
    (w.spent tx).Perm (chosen.map BlockfrostUtxo.output) ∧ tx.inputs.Nodup := by
  have hrefs : refsOf w.outputs = listed.map BlockfrostUtxo.toInput := by
    rw [hw, refsOf, List.map_map]
    rfl
  rw [hrefs] at hnodup
  obtain ⟨l, hperm, hlisted⟩ := hsub
  have hchosen : (chosen.map BlockfrostUtxo.toInput).Nodup :=
    (hperm.map BlockfrostUtxo.toInput).nodup_iff.mp (hnodup.sublist (hlisted.map _))
  have hfilter : w.spent tx = (listed.filter fun u =>
      u.toInput ∈ chosen.map BlockfrostUtxo.toInput).map BlockfrostUtxo.output := by
    rw [Wallet.spent, hw, hinputs, List.filter_map]
    rfl
  refine ⟨?_, hinputs ▸ hchosen⟩
  rw [hfilter]
  apply List.Perm.map
  apply (List.perm_ext_iff_of_nodup (hnodup.of_map.filter _) hchosen.of_map).mpr
  intro u
  have hmem : ∀ v ∈ chosen, v ∈ listed := fun v hv => hlisted.subset (hperm.mem_iff.mpr hv)
  simp only [List.mem_filter, decide_eq_true_eq, List.mem_map]
  constructor
  · rintro ⟨hu, v, hv, huv⟩
    rwa [← List.inj_on_of_nodup_map hnodup (hmem v hv) hu huv]
  · exact fun hu => ⟨hmem u hu, u, hu, rfl⟩

/-- A certificate list for a delegation runs iff the account is what it is taken to be. -/
theorem execute_delegation {keyDeposit : ℤ} {key key' : Option (StakeKey String)} {deposits : ℤ}
    {type : TransactionType} (htype : type = .delegate ∨ type = .redelegate) :
    (certificatesFor active pool type).foldlM (execute keyDeposit) (key, 0) =
        some (key', deposits) ↔
      active = key.isSome ∧ key' = keyAfter keyDeposit pool key type ∧
        deposits = if active then 0 else keyDeposit := by
  have hcerts : certificatesFor active pool type =
      if active then [.delegate pool] else [.register, .delegate pool] := by
    rcases htype with rfl | rfl <;> rfl
  have hafter : keyAfter keyDeposit pool key type = some
      { key.getD { deposit := keyDeposit, rewards := 0, pool := none } with pool := some pool } := by
    rcases htype with rfl | rfl <;> rfl
  rw [hcerts, hafter]
  cases active <;> cases key <;> simp [execute, eq_comm]

/-- A withdrawal of the rewards leaves none. -/
theorem withdraw_rewards {key withdrawn : Option (StakeKey String)} (h0 : 0 ≤ rewardsOf key) :
    (if rewardsOf key ≤ 0 then [] else [rewardsOf key]).foldlM withdraw key = some withdrawn ↔
      withdrawn = key.map fun k => { k with rewards := 0 } := by
  cases key with
  | none => simp [rewardsOf, eq_comm]
  | some k =>
      have hrewards : rewardsOf (some k) = k.rewards := rfl
      rw [hrewards] at h0 ⊢
      split_ifs with hle
      · have hzero : k.rewards = 0 := le_antisymm hle h0
        simp [← hzero, eq_comm]
      · simp [withdraw, eq_comm]

/-- **The stake key under a transaction**: the rules that concern it are met, with the deposits that
the outputs account for, iff the account and the deposit are what they are taken to be. -/
theorem Drafted.stakeKey_iff
    (h : Drafted sdk transaction active listed p (rewardsOf w.stakeKey) fee pool chosen tx)
    {key : Option (StakeKey String)} {deposits : ℤ} :
    (∃ withdrawn, tx.withdrawals.foldlM withdraw w.stakeKey = some withdrawn ∧
        tx.certificates.foldlM (execute p.keyDeposit) (withdrawn, 0) = some (key, deposits)) ∧
        deposits = depositDue transaction active p.keyDeposit
          - keyDepositRefund transaction p.keyDeposit ↔
      Matches active p.keyDeposit w.stakeKey transaction.type ∧
        key = keyAfter p.keyDeposit pool w.stakeKey transaction.type ∧
        deposits = depositDue transaction active p.keyDeposit
          - keyDepositRefund transaction p.keyDeposit := by
  rw [h.withdrawals, h.certificates]
  cases htype : transaction.type with
  | delegate | redelegate =>
      have hdelegation : (certificatesFor active pool transaction.type).foldlM
            (execute p.keyDeposit) (w.stakeKey, 0) = some (key, deposits) ↔
          active = w.stakeKey.isSome ∧
            key = keyAfter p.keyDeposit pool w.stakeKey transaction.type ∧
            deposits = if active then 0 else p.keyDeposit :=
        execute_delegation (by simp [htype])
      have hdue : depositDue transaction active p.keyDeposit
          - keyDepositRefund transaction p.keyDeposit = if active then 0 else p.keyDeposit := by
        cases active <;> simp [depositDue, keyDepositRefund, htype]
      rw [htype] at hdelegation
      have hwithdrawal : rewardAccountWithdrawal transaction (rewardsOf w.stakeKey) = 0 := by
        simp [rewardAccountWithdrawal, htype]
      rw [hwithdrawal, hdue, if_pos le_rfl]
      simp only [List.foldlM_nil, Option.pure_def, Option.some.injEq, exists_eq_left', hdelegation,
        Matches]
      tauto
  | undelegate =>
      have hwithdrawal : rewardAccountWithdrawal transaction (rewardsOf w.stakeKey) =
          rewardsOf w.stakeKey := by
        simp [rewardAccountWithdrawal, htype]
      have hdue : depositDue transaction active p.keyDeposit
          - keyDepositRefund transaction p.keyDeposit = - p.keyDeposit := by
        simp [depositDue, keyDepositRefund, htype]
      simp only [hwithdrawal, withdraw_rewards (h.registered htype).2, exists_eq_left, hdue]
      cases hkey : w.stakeKey with
      | none => simp [certificatesFor, execute, Matches]
      | some k =>
          simp only [certificatesFor, execute, Matches, keyAfter, Option.map_some, List.foldlM_cons,
            List.foldlM_nil, if_true, Option.pure_def, Option.bind_eq_bind, Option.bind_some,
            Option.some.injEq, Prod.mk.injEq, exists_eq_left']
          constructor
          · rintro ⟨⟨rfl, rfl⟩, hdeposits⟩
            exact ⟨by omega, rfl, hdeposits⟩
          · rintro ⟨hdeposit, rfl, rfl⟩
            exact ⟨⟨rfl, by omega⟩, rfl⟩
  | claimRewards =>
      have hwithdrawal : rewardAccountWithdrawal transaction (rewardsOf w.stakeKey) =
          rewardsOf w.stakeKey := by
        simp [rewardAccountWithdrawal, htype]
      have hdue : depositDue transaction active p.keyDeposit
          - keyDepositRefund transaction p.keyDeposit = 0 := by
        simp [depositDue, keyDepositRefund, htype]
      simp only [hwithdrawal, withdraw_rewards (h.claims htype).le, exists_eq_left, hdue]
      simp [certificatesFor, Matches, keyAfter, eq_comm]
  | claimDelegate | vote => exact absurd h.supported (by simp [needsAccount, htype])

/-- What is withdrawn. -/
theorem Drafted.sum_withdrawals
    (h : Drafted sdk transaction active listed p (rewardsOf w.stakeKey) fee pool chosen tx) :
    tx.withdrawals.sum = rewardAccountWithdrawal transaction (rewardsOf w.stakeKey) := by
  have h0 : 0 ≤ rewardAccountWithdrawal transaction (rewardsOf w.stakeKey) := by
    unfold rewardAccountWithdrawal
    split_ifs with htakes
    · rcases htakes with htype | htype
      · exact (h.claims htype).le
      · exact (h.registered htype).2
    · exact le_rfl
  rw [h.withdrawals]
  split_ifs with hle
  · exact le_antisymm h0 hle
  · simp

/-- The rules for the outputs are met iff the deposits are those the outputs account for. -/
theorem Drafted.admits_iff
    (h : Drafted sdk transaction active listed p (rewardsOf w.stakeKey) fee pool chosen tx)
    (hwf : ∀ u ∈ listed, u.WellFormed) (hw : w.outputs = listed.map BlockfrostUtxo.output)
    (hnodup : (refsOf w.outputs).Nodup) (hfee : 0 ≤ fee) (hdeposit : 0 ≤ p.keyDeposit)
    (hminOutput : 0 < p.minOutput) {deposits : ℤ} :
    w.Admits p tx deposits ↔
      deposits = depositDue transaction active p.keyDeposit
        - keyDepositRefund transaction p.keyDeposit := by
  obtain ⟨pages, -, hfunds, hchosen⟩ := h.chosen_eq
  obtain ⟨hsub, hada, hreach⟩ := chosenFrom_spec
    (fun u hu => hwf u (List.mem_of_mem_take hu)) hfunds
  rw [← hchosen] at hsub hada hreach
  obtain ⟨hspent, hinputs⟩ := spent_perm hw hnodup
    (hsub.trans (List.take_sublist _ _).subperm) h.inputs
  obtain ⟨ref, hcreated⟩ := h.created
  have hcoins : coinsOf (w.spent tx) = (chosen.map BlockfrostUtxo.lovelaces).sum := by
    rw [coinsOf, (hspent.map Output.coins).sum_eq, List.map_map]
    rfl
  have hdue : 0 ≤ depositDue transaction active p.keyDeposit := by
    unfold depositDue
    split_ifs
    · exact hdeposit
    · exact le_rfl
  have hbalance : coinsOf (w.spent tx) + tx.withdrawals.sum =
        coinsOf tx.created + tx.paidToOthers + tx.fee + deposits ↔
      deposits = depositDue transaction active p.keyDeposit
        - keyDepositRefund transaction p.keyDeposit := by
    rw [hcoins, h.sum_withdrawals, hcreated, h.paidToOthers, h.fee_eq]
    simp only [coinsOf, List.map_singleton, List.sum_singleton, changeOf]
    constructor <;> intro heq <;> omega
  unfold Wallet.Admits
  rw [hbalance]
  refine ⟨fun hall => hall.2.2.2.2.2.2, fun heq => ⟨?_, ?_, hinputs, ?_, ?_, ?_, heq⟩⟩
  · rw [h.validBefore]
    rintro slot ⟨⟩
    simp [ttlValiditySlots]
  · -- an empty selection reaches no positive target
    rw [h.inputs, ne_eq, List.map_eq_nil_iff]
    rintro rfl
    simp only [List.map_nil, List.sum_nil] at hreach
    omega
  · intro r hr
    rw [h.inputs] at hr
    obtain ⟨u, hu, rfl⟩ := List.mem_map.mp hr
    rw [hw, refsOf, List.map_map]
    exact List.mem_map_of_mem (f := Output.ref ∘ BlockfrostUtxo.output)
      (List.mem_of_mem_take (hsub.subset hu))
  · intro o ho
    obtain ⟨u, hu, rfl⟩ := List.mem_map.mp (hspent.mem_iff.mp ho)
    exact hada u hu
  · rw [hcreated]
    simpa using h.minimum

/-- **When a body is accepted.** Whatever is signed, on every wallet that the client reports as it
is: the body that is built is accepted exactly if the account and the deposit are what it takes them
to be, and then the wallet is left with the change, the other outputs and the stake key that was asked
for, worth less by the fee. -/
theorem resolveBody_accepted_iff {rpc : BlockfrostRpcClient}
    {account stakeKeyHashHex rewardAccount : String} {body : TxBody}
    (hreads : ReadsWallet sdk rpc account rewardAccount active listed p w)
    (hnodup : (refsOf w.outputs).Nodup)
    (hreward : buildRewardAccount sdk stakeKeyHashHex = .ok rewardAccount)
    (hfee : 0 ≤ fee) (hdeposit : 0 ≤ p.keyDeposit) (hminOutput : 0 < p.minOutput)
    (h : resolveBody sdk rpc transaction account stakeKeyHashHex fee = .ok body) :
    ∃ tx pool, body.onLedger sdk account stakeKeyHashHex rewardAccount = some tx ∧
      (transaction.type = .delegate ∨ transaction.type = .redelegate →
        requestedPool sdk transaction = .ok pool) ∧
      (∀ after, w.accept p tx = some after ↔
        Matches active p.keyDeposit w.stakeKey transaction.type ∧
          after.outputs = tx.created ++ w.unspent tx ∧
          after.stakeKey = keyAfter p.keyDeposit pool w.stakeKey transaction.type) ∧
      ∀ after, w.accept p tx = some after → after.worth + fee = w.worth := by
  obtain ⟨tx, pool, chosen, htx, hdrafted⟩ := resolveBody_onLedger hreads hreward h
  refine ⟨tx, pool, htx, hdrafted.pool_eq, fun after => ⟨?_, ?_⟩, fun after haccept => ?_⟩
  · intro haccept
    obtain ⟨withdrawn, deposits, hwithdrawn, hexecute, hadmits, houtputs⟩ :=
      Wallet.accept_eq_some.mp haccept
    have hdue := (hdrafted.admits_iff hreads.wellFormed hreads.outputs hnodup hfee hdeposit
      hminOutput).mp hadmits
    obtain ⟨hmatches, hkey, -⟩ :=
      hdrafted.stakeKey_iff.mp ⟨⟨withdrawn, hwithdrawn, hexecute⟩, hdue⟩
    exact ⟨hmatches, houtputs, hkey⟩
  · rintro ⟨hmatches, houtputs, hkey⟩
    obtain ⟨⟨withdrawn, hwithdrawn, hexecute⟩, hdue⟩ :=
      hdrafted.stakeKey_iff.mpr ⟨hmatches, hkey, rfl⟩
    have hadmits := (hdrafted.admits_iff hreads.wellFormed hreads.outputs hnodup hfee hdeposit
      hminOutput).mpr hdue
    exact Wallet.accept_eq_some.mpr ⟨withdrawn, _, hwithdrawn, hexecute, hadmits, houtputs⟩
  · have hworth := Wallet.worth_accept haccept
    rwa [hdrafted.fee_eq, hdrafted.paidToOthers, add_zero] at hworth

end accepted

/-! ### A wallet that moves to another pool -/

/-- The UTXO of a wallet with 10 ADA. -/
def tenAda : List BlockfrostUtxo := [adaUtxo vectorTxHash "10000000"]

/-- The chain of `walletRpc` under mainnet's parameters. -/
def walletProtocol : Protocol := { slot := 100000000, keyDeposit := 2000000, minOutput := 969750 }

/-- That wallet on the ledger: the key delegates to some pool and has one ADA of rewards. -/
def walletOnLedger : Wallet TxInput String where
  outputs := tenAda.map BlockfrostUtxo.output
  stakeKey := some { deposit := 2000000, rewards := 1000000, pool := some "pool" }

/-- The client reports the wallet as it is. -/
theorem readsWallet_walletRpc :
    ReadsWallet walletSdk (walletRpc mainnetParams tenAda) walletAddress walletStakeAddress true
      tenAda walletProtocol walletOnLedger where
  wellFormed := by decide
  outputs := rfl
  serves := by
    intro page hpage
    by_cases h1 : page = 1
    · subst h1
      rfl
    · have hdrop : tenAda.drop ((page - 1) * defaultUtxoPageSize) = [] := by
        apply List.drop_eq_nil_of_le
        simp only [tenAda, List.length_singleton, defaultUtxoPageSize]
        omega
      simp [walletRpc, h1, hdrop]
  params := by
    intro protocolParams hparams
    obtain rfl : mainnetParams = protocolParams := Except.ok.inj hparams
    exact ⟨by decide, by decide +kernel⟩
  slot := by
    intro block hblock
    obtain rfl := Except.ok.inj hblock
    rfl
  active := by
    intro existing hexisting
    obtain rfl := Except.ok.inj hexisting
    rfl
  rewards := by
    intro existing amount hexisting hamount
    obtain rfl := Except.ok.inj hexisting
    have hread : parseLovelaceString "1000000" "withdrawable_amount" = .ok 1000000 := by decide
    exact (Except.ok.inj (hread.symm.trans hamount)).symm

/-- The body of that wallet's delegation is accepted, and the key changes its pool. -/
theorem resolveBody_accepted_delegate :
    ∃ tx after,
      walletDelegateBody.onLedger walletSdk walletAddress walletCredentials.stakeKeyHashHex
        walletStakeAddress = some tx ∧
      walletOnLedger.accept walletProtocol tx = some after ∧
      after.stakeKey = keyAfter 2000000 "0f292fcaa02b8b2f9b3c8f9fd8e0bb21abedb692a6d5058df3ef2735"
        walletOnLedger.stakeKey .delegate := by
  have hbody : resolveBody walletSdk (walletRpc mainnetParams tenAda) walletDelegate walletAddress
      walletCredentials.stakeKeyHashHex 189891 = .ok walletDelegateBody := by
    decide +kernel
  have hrequested : requestedPool walletSdk walletDelegate =
      .ok "0f292fcaa02b8b2f9b3c8f9fd8e0bb21abedb692a6d5058df3ef2735" := by
    decide +kernel
  obtain ⟨tx, pool, htx, hpool, haccept, -⟩ := resolveBody_accepted_iff readsWallet_walletRpc
    (by decide) (by decide +kernel) (by decide) (by decide) (by decide) hbody
  obtain rfl := Except.ok.inj (hrequested.symm.trans (hpool (Or.inl rfl)))
  refine ⟨tx, { outputs := tx.created ++ walletOnLedger.unspent tx, stakeKey := _ }, htx, ?_, rfl⟩
  exact (haccept _).mpr ⟨rfl, rfl, rfl⟩

end GuardianStake.Cardano
