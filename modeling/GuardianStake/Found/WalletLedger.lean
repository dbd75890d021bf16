import GuardianStake.Found.Transition

/-!
# A wallet on a ledger of unspent outputs

What a ledger of unspent outputs holds for one wallet: its outputs, and a stake key that is
registered against a deposit, earns rewards and delegates to a pool. References and pools are of any
type. Nothing here names a program.

* `Wallet.accept` — the ledger's rules for one transaction of the wallet.
* `Wallet.worth_accept` — **value is conserved**: the wallet is worth less by the fee and by what is
  paid to others.
* `Wallet.accept_eq_some` — what a transaction that is accepted leaves.
* `Step` — transactions are made, stay in flight and are included in any order, while rewards and
  payments come in, time passes and the parameters change.
* `Inv.step` — **the invariant**: value, the outputs that hold more than coins, the references and the
  pools.
* `Inv.eq_of_common_input` — included transactions have no input in common.
-/

namespace GuardianStake.Found.WalletLedger

universe u v

/-! ## The rules -/

/-- An unspent output: what refers to it, its coins, and whether it holds nothing but coins. -/
structure Output (ρ : Type u) where
  ref : ρ
  coins : ℤ
  coinsOnly : Bool
  deriving DecidableEq, Repr

/-- A registered stake key: the deposit paid for it, its rewards, and the pool it delegates to. -/
structure StakeKey (π : Type v) where
  deposit : ℤ
  rewards : ℤ
  pool : Option π
  deriving DecidableEq, Repr

/-- What the ledger holds for a wallet; no stake key where none is registered. -/
structure Wallet (ρ : Type u) (π : Type v) where
  outputs : List (Output ρ)
  stakeKey : Option (StakeKey π)
  deriving DecidableEq, Repr

/-- A certificate about the wallet's stake key. -/
inductive Certificate (π : Type v)
  | register
  | deregister
  | delegate (pool : π)
  deriving DecidableEq, Repr

/-- A transaction that spends outputs of the wallet: the outputs it makes for the wallet, what it pays
to others, and the slot it has to be included before. -/
structure Tx (ρ : Type u) (π : Type v) where
  inputs : List ρ
  created : List (Output ρ)
  paidToOthers : ℤ
  fee : ℤ
  withdrawals : List ℤ
  certificates : List (Certificate π)
  validBefore : Option ℤ
  deriving DecidableEq, Repr

/-- What the rules depend on besides the wallet. -/
structure Protocol where
  slot : ℤ
  keyDeposit : ℤ
  minOutput : ℤ
  deriving DecidableEq, Repr

variable {ρ : Type u} {π : Type v}

/-- What a stake key is worth: the deposit comes back when it is deregistered. -/
def StakeKey.worth (key : StakeKey π) : ℤ := key.deposit + key.rewards

/-- What the stake key is worth, if there is one. -/
def keyWorth (key : Option (StakeKey π)) : ℤ := (key.map StakeKey.worth).getD 0

@[simp] theorem keyWorth_none : keyWorth (none : Option (StakeKey π)) = 0 := rfl

@[simp] theorem keyWorth_some (key : StakeKey π) :
    keyWorth (some key) = key.deposit + key.rewards := rfl

/-- The coins of a list of outputs. -/
def coinsOf (outputs : List (Output ρ)) : ℤ := (outputs.map Output.coins).sum

/-- The references of a list of outputs. -/
def refsOf (outputs : List (Output ρ)) : List ρ := outputs.map Output.ref

/-- What a wallet is worth. -/
def Wallet.worth (w : Wallet ρ π) : ℤ := coinsOf w.outputs + keyWorth w.stakeKey

/-- A withdrawal takes the whole reward balance of a registered key. -/
def withdraw : Option (StakeKey π) → ℤ → Option (Option (StakeKey π))
  | some key, amount => if key.rewards = amount then some (some { key with rewards := 0 }) else none
  | none, _ => none

/-- A certificate, with the deposits that have been paid less those returned: a key is registered
once, it delegates while it is registered, and it is deregistered without rewards. -/
def execute (keyDeposit : ℤ) :
    Option (StakeKey π) × ℤ → Certificate π → Option (Option (StakeKey π) × ℤ)
  | (none, paid), .register =>
      some (some { deposit := keyDeposit, rewards := 0, pool := none }, paid + keyDeposit)
  | (some key, paid), .deregister =>
      if key.rewards = 0 then some (none, paid - key.deposit) else none
  | (some key, paid), .delegate pool => some (some { key with pool := some pool }, paid)
  | (some _, _), .register | (none, _), .deregister | (none, _), .delegate _ => none

variable [DecidableEq ρ]

/-- The outputs a transaction spends. -/
def Wallet.spent (w : Wallet ρ π) (tx : Tx ρ π) : List (Output ρ) :=
  w.outputs.filter fun o => o.ref ∈ tx.inputs

/-- The outputs a transaction leaves. -/
def Wallet.unspent (w : Wallet ρ π) (tx : Tx ρ π) : List (Output ρ) :=
  w.outputs.filter fun o => o.ref ∉ tx.inputs

/-- The rules for the outputs: the inputs are distinct outputs of the wallet, at least one, and hold
nothing but coins, as the outputs do that are made; time is left, no output is below the minimum, and
what goes in comes out. -/
def Wallet.Admits (w : Wallet ρ π) (p : Protocol) (tx : Tx ρ π) (deposits : ℤ) : Prop :=
  (∀ slot ∈ tx.validBefore, p.slot < slot) ∧ tx.inputs ≠ [] ∧ tx.inputs.Nodup ∧
    (∀ r ∈ tx.inputs, r ∈ refsOf w.outputs) ∧ (∀ o ∈ w.spent tx, o.coinsOnly = true) ∧
    (∀ o ∈ tx.created, o.coinsOnly = true ∧ p.minOutput ≤ o.coins) ∧
    coinsOf (w.spent tx) + tx.withdrawals.sum =
      coinsOf tx.created + tx.paidToOthers + tx.fee + deposits

instance (w : Wallet ρ π) (p : Protocol) (tx : Tx ρ π) (deposits : ℤ) :
    Decidable (w.Admits p tx deposits) :=
  inferInstanceAs (Decidable (_ ∧ _ ∧ _ ∧ _ ∧ _ ∧ _ ∧ _))

/-- The ledger's rules for one transaction: withdrawals come before certificates. -/
def Wallet.accept (p : Protocol) (w : Wallet ρ π) (tx : Tx ρ π) : Option (Wallet ρ π) :=
  (tx.withdrawals.foldlM withdraw w.stakeKey).bind fun withdrawn =>
    (tx.certificates.foldlM (execute p.keyDeposit) (withdrawn, 0)).bind fun executed =>
      if w.Admits p tx executed.2 then
        some { outputs := tx.created ++ w.unspent tx, stakeKey := executed.1 }
      else none

/-! ## Value -/

section value

omit [DecidableEq ρ]

theorem withdraw_eq_some {key after : Option (StakeKey π)} {amount : ℤ}
    (h : withdraw key amount = some after) :
    ∃ k, key = some k ∧ k.rewards = amount ∧ after = some { k with rewards := 0 } := by
  cases key with
  | none => simp [withdraw] at h
  | some k =>
      simp only [withdraw] at h
      split_ifs at h with hamount
      exact ⟨k, rfl, hamount, (Option.some.inj h).symm⟩

/-- Withdrawals take from the stake key what they pay. -/
theorem keyWorth_withdraw {key after : Option (StakeKey π)} {amounts : List ℤ}
    (h : amounts.foldlM withdraw key = some after) :
    keyWorth after + amounts.sum = keyWorth key := by
  induction amounts generalizing key with
  | nil =>
      obtain rfl : key = after := Option.some.inj h
      simp
  | cons amount amounts ih =>
      obtain ⟨mid, hmid, h⟩ := Option.bind_eq_some_iff.mp h
      obtain ⟨k, rfl, rfl, rfl⟩ := withdraw_eq_some hmid
      have hrest := ih h
      simp only [keyWorth_some, List.sum_cons] at hrest ⊢
      omega

/-- A certificate moves the deposit into the key or out of it. -/
theorem keyWorth_execute {keyDeposit : ℤ} {s t : Option (StakeKey π) × ℤ} {c : Certificate π}
    (h : execute keyDeposit s c = some t) : keyWorth t.1 - t.2 = keyWorth s.1 - s.2 := by
  obtain ⟨key, paid⟩ := s
  cases key with
  | none =>
      cases c with
      | register =>
          obtain rfl := Option.some.inj h
          simp
      | deregister => simp [execute] at h
      | delegate pool => simp [execute] at h
  | some k =>
      cases c with
      | register => simp [execute] at h
      | deregister =>
          simp only [execute] at h
          split_ifs at h with hzero
          obtain rfl := Option.some.inj h
          simp [hzero]
      | delegate pool =>
          obtain rfl := Option.some.inj h
          simp

/-- Certificates move the deposits into the key or out of it. -/
theorem keyWorth_executeAll {keyDeposit : ℤ} {s t : Option (StakeKey π) × ℤ}
    {certificates : List (Certificate π)}
    (h : certificates.foldlM (execute keyDeposit) s = some t) :
    keyWorth t.1 - t.2 = keyWorth s.1 - s.2 := by
  induction certificates generalizing s with
  | nil =>
      obtain rfl : s = t := Option.some.inj h
      rfl
  | cons c certificates ih =>
      obtain ⟨mid, hmid, h⟩ := Option.bind_eq_some_iff.mp h
      rw [ih h, keyWorth_execute hmid]

end value

variable {p : Protocol} {w after : Wallet ρ π} {tx : Tx ρ π}

/-- What a transaction that is accepted leaves. -/
theorem Wallet.accept_eq_some :
    w.accept p tx = some after ↔
      ∃ withdrawn deposits, tx.withdrawals.foldlM withdraw w.stakeKey = some withdrawn ∧
        tx.certificates.foldlM (execute p.keyDeposit) (withdrawn, 0) =
          some (after.stakeKey, deposits) ∧
        w.Admits p tx deposits ∧ after.outputs = tx.created ++ w.unspent tx := by
  simp only [Wallet.accept, Option.bind_eq_some_iff]
  constructor
  · rintro ⟨withdrawn, hwithdrawn, ⟨stakeKey, deposits⟩, hexecute, h⟩
    split_ifs at h with hadmits
    obtain rfl := Option.some.inj h
    exact ⟨withdrawn, deposits, hwithdrawn, hexecute, hadmits, rfl⟩
  · rintro ⟨withdrawn, deposits, hwithdrawn, hexecute, hadmits, houtputs⟩
    refine ⟨withdrawn, hwithdrawn, (after.stakeKey, deposits), hexecute, ?_⟩
    simp only [if_pos hadmits, ← houtputs]

/-- The outputs are those that are spent and those that are left. -/
theorem Wallet.coinsOf_spent_add (w : Wallet ρ π) (tx : Tx ρ π) :
    coinsOf (w.spent tx) + coinsOf (w.unspent tx) = coinsOf w.outputs := by
  unfold coinsOf Wallet.spent Wallet.unspent
  induction w.outputs with
  | nil => simp
  | cons o l ih =>
      rw [List.map_cons, List.sum_cons, ← ih]
      by_cases ho : o.ref ∈ tx.inputs
      · simp [ho, add_assoc]
      · simp [ho, add_left_comm]

/-- **Value is conserved**: a wallet is worth less by the fee and by what is paid to others. -/
theorem Wallet.worth_accept (h : w.accept p tx = some after) :
    after.worth + tx.fee + tx.paidToOthers = w.worth := by
  obtain ⟨withdrawn, deposits, hwithdrawn, hexecute, hadmits, houtputs⟩ := Wallet.accept_eq_some.mp h
  obtain ⟨-, -, -, -, -, -, hbalance⟩ := hadmits
  have hkey := keyWorth_withdraw hwithdrawn
  have hcerts := keyWorth_executeAll hexecute
  have hcoins := w.coinsOf_spent_add tx
  simp only at hcerts
  have hafter : coinsOf after.outputs = coinsOf tx.created + coinsOf (w.unspent tx) := by
    rw [houtputs, coinsOf, List.map_append, List.sum_append]
    rfl
  simp only [Wallet.worth]
  omega

/-- The references of what is left are references of the wallet that are no inputs. -/
theorem Wallet.mem_refsOf_unspent {r : ρ} :
    r ∈ refsOf (w.unspent tx) ↔ r ∈ refsOf w.outputs ∧ r ∉ tx.inputs := by
  simp only [refsOf, Wallet.unspent, List.mem_map, List.mem_filter, decide_eq_true_eq]
  constructor
  · rintro ⟨o, ⟨ho, hnot⟩, rfl⟩
    exact ⟨⟨o, ho, rfl⟩, hnot⟩
  · rintro ⟨⟨o, ho, rfl⟩, hnot⟩
    exact ⟨o, ⟨ho, hnot⟩, rfl⟩

/-! ## The stake key -/

section stakeKey

omit [DecidableEq ρ]

/-- Withdrawals leave the pool as it is. -/
theorem pool_withdraw {key after : Option (StakeKey π)} {amounts : List ℤ}
    (h : amounts.foldlM withdraw key = some after) {k : StakeKey π} (hk : after = some k) :
    ∃ k₀, key = some k₀ ∧ k₀.pool = k.pool := by
  induction amounts generalizing key with
  | nil =>
      obtain rfl : key = after := Option.some.inj h
      exact ⟨k, hk, rfl⟩
  | cons amount amounts ih =>
      obtain ⟨mid, hmid, h⟩ := Option.bind_eq_some_iff.mp h
      obtain ⟨k₀, rfl, rfl, rfl⟩ := withdraw_eq_some hmid
      obtain ⟨k₁, hk₁, hpool⟩ := ih h
      obtain rfl := Option.some.inj hk₁
      exact ⟨k₀, rfl, hpool⟩

/-- A certificate keeps the pool unless it names another one. -/
theorem pool_execute {keyDeposit : ℤ} {s t : Option (StakeKey π) × ℤ} {c : Certificate π}
    (h : execute keyDeposit s c = some t) {k : StakeKey π} {pool : π} (hk : t.1 = some k)
    (hpool : k.pool = some pool) :
    c = .delegate pool ∨ ∃ k₀, s.1 = some k₀ ∧ k₀.pool = some pool := by
  obtain ⟨key, paid⟩ := s
  cases key with
  | none =>
      cases c with
      | register =>
          obtain rfl := Option.some.inj h
          obtain rfl := Option.some.inj hk
          simp at hpool
      | deregister => simp [execute] at h
      | delegate pool' => simp [execute] at h
  | some k₀ =>
      cases c with
      | register => simp [execute] at h
      | deregister =>
          simp only [execute] at h
          split_ifs at h
          obtain rfl := Option.some.inj h
          simp at hk
      | delegate pool' =>
          obtain rfl := Option.some.inj h
          obtain rfl := Option.some.inj hk
          exact Or.inl (congrArg Certificate.delegate (Option.some.inj hpool))

/-- Certificates keep the pool unless one of them names another one. -/
theorem pool_executeAll {keyDeposit : ℤ} {s t : Option (StakeKey π) × ℤ}
    {certificates : List (Certificate π)}
    (h : certificates.foldlM (execute keyDeposit) s = some t) {k : StakeKey π} {pool : π}
    (hk : t.1 = some k) (hpool : k.pool = some pool) :
    .delegate pool ∈ certificates ∨ ∃ k₀, s.1 = some k₀ ∧ k₀.pool = some pool := by
  induction certificates generalizing s with
  | nil =>
      obtain rfl : s = t := Option.some.inj h
      exact Or.inr ⟨k, hk, hpool⟩
  | cons c certificates ih =>
      obtain ⟨mid, hmid, h⟩ := Option.bind_eq_some_iff.mp h
      rcases ih h with hmem | ⟨k₁, hk₁, hpool₁⟩
      · exact Or.inl (List.mem_cons_of_mem _ hmem)
      · rcases pool_execute hmid hk₁ hpool₁ with rfl | hbefore
        · exact Or.inl List.mem_cons_self
        · exact Or.inr hbefore

end stakeKey

/-! ## Transactions in flight -/

/-- The chain, as far as it concerns a wallet: the references in use so far, the transactions made
for the wallet, those that are settled, and what has come in. -/
structure Chain (ρ : Type u) (π : Type v) where
  protocol : Protocol
  wallet : Wallet ρ π
  used : List ρ
  made : List (Tx ρ π)
  settled : List (Tx ρ π)
  arrived : List (Output ρ)
  rewarded : ℤ

/-- The chain before any transaction is made. -/
def Chain.start (protocol : Protocol) (wallet : Wallet ρ π) : Chain ρ π :=
  { protocol, wallet, used := refsOf wallet.outputs, made := [], settled := [], arrived := [],
    rewarded := 0 }

/-- What can happen. -/
inductive Action (ρ : Type u) (π : Type v)
  | make (tx : Tx ρ π)
  | settle (tx : Tx ρ π)
  | reward (amount : ℤ)
  | receive (o : Output ρ)
  | change (p : Protocol)

/-- A step of the chain, with the transactions that `Makes` allows. Whatever has been made may be
settled at any later time; references are never used again. -/
inductive Step (Makes : Chain ρ π → Tx ρ π → Prop) : Chain ρ π → Action ρ π → Chain ρ π → Prop
  | make {s : Chain ρ π} {tx : Tx ρ π} (hmakes : Makes s tx) :
      Step Makes s (.make tx) { s with made := tx :: s.made }
  | settle {s : Chain ρ π} {tx : Tx ρ π} {after : Wallet ρ π} (hmade : tx ∈ s.made)
      (hnodup : (refsOf tx.created).Nodup) (hfresh : ∀ r ∈ refsOf tx.created, r ∉ s.used)
      (haccept : s.wallet.accept s.protocol tx = some after) :
      Step Makes s (.settle tx)
        { s with wallet := after, used := refsOf tx.created ++ s.used, settled := tx :: s.settled }
  | reward {s : Chain ρ π} {key : StakeKey π} {amount : ℤ} (hkey : s.wallet.stakeKey = some key) :
      Step Makes s (.reward amount)
        { s with
          wallet := { s.wallet with stakeKey := some { key with rewards := key.rewards + amount } }
          rewarded := s.rewarded + amount }
  | receive {s : Chain ρ π} {o : Output ρ} (hfresh : o.ref ∉ s.used) :
      Step Makes s (.receive o)
        { s with
          wallet := { s.wallet with outputs := o :: s.wallet.outputs }
          used := o.ref :: s.used
          arrived := o :: s.arrived }
  | change {s : Chain ρ π} {p : Protocol} : Step Makes s (.change p) { s with protocol := p }

/-- What holds throughout, for a wallet that was `w₀` to begin with. -/
structure Inv (w₀ : Wallet ρ π) (s : Chain ρ π) : Prop where
  nodup : (refsOf s.wallet.outputs).Nodup
  used : ∀ r ∈ refsOf s.wallet.outputs, r ∈ s.used
  /-- The inputs of what is settled are gone for good. -/
  gone : ∀ tx ∈ s.settled, ∀ r ∈ tx.inputs, r ∈ s.used ∧ r ∉ refsOf s.wallet.outputs
  nonempty : ∀ tx ∈ s.settled, tx.inputs ≠ []
  apart : s.settled.Pairwise fun tx tx' => tx.inputs.Disjoint tx'.inputs
  made : ∀ tx ∈ s.settled, tx ∈ s.made
  /-- The wallet is worth what it was and what came in, less what was paid. -/
  worth : s.wallet.worth + (s.settled.map fun tx => tx.fee + tx.paidToOthers).sum =
    w₀.worth + coinsOf s.arrived + s.rewarded
  /-- An output that holds more than coins stays. -/
  kept : ∀ o, o ∈ w₀.outputs ∨ o ∈ s.arrived → o.coinsOnly = false → o ∈ s.wallet.outputs
  /-- The pool is the first one or one that a settled transaction names. -/
  pool : ∀ key pool, s.wallet.stakeKey = some key → key.pool = some pool →
    (∃ key₀, w₀.stakeKey = some key₀ ∧ key₀.pool = some pool) ∨
      ∃ tx ∈ s.settled, .delegate pool ∈ tx.certificates

section run

variable {Makes : Chain ρ π → Tx ρ π → Prop} {w₀ : Wallet ρ π} {s t : Chain ρ π}
  {a : Action ρ π}

omit [DecidableEq ρ] in
/-- It holds to begin with. -/
theorem Inv.start (protocol : Protocol) (hnodup : (refsOf w₀.outputs).Nodup) :
    Inv w₀ (Chain.start protocol w₀) where
  nodup := hnodup
  used := fun _ hr => hr
  gone := by simp [Chain.start]
  nonempty := by simp [Chain.start]
  apart := by simp [Chain.start]
  made := by simp [Chain.start]
  worth := by simp [Chain.start, coinsOf]
  kept := fun o ho _ => ho.resolve_right List.not_mem_nil
  pool := fun key pool hkey hpool => Or.inl ⟨key, hkey, hpool⟩

/-- **Settling keeps the invariant.** -/
theorem Inv.settle (h : Inv w₀ s) (hmade : tx ∈ s.made) (hnodup : (refsOf tx.created).Nodup)
    (hfresh : ∀ r ∈ refsOf tx.created, r ∉ s.used)
    (haccept : s.wallet.accept s.protocol tx = some after) :
    Inv w₀ { s with
      wallet := after, used := refsOf tx.created ++ s.used, settled := tx :: s.settled } := by
  have hworth := Wallet.worth_accept haccept
  obtain ⟨withdrawn, deposits, hwithdrawn, hexecute, hadmits, houtputs⟩ :=
    Wallet.accept_eq_some.mp haccept
  obtain ⟨-, hnonempty, -, hinputs, hcoinsOnly, -, -⟩ := hadmits
  have hrefs : ∀ r, r ∈ refsOf after.outputs ↔
      r ∈ refsOf tx.created ∨ r ∈ refsOf s.wallet.outputs ∧ r ∉ tx.inputs := by
    intro r
    rw [← Wallet.mem_refsOf_unspent, houtputs, refsOf, List.map_append, List.mem_append]
    rfl
  constructor
  · -- what is left keeps its references, and those made are new
    show (refsOf after.outputs).Nodup
    rw [houtputs, refsOf, List.map_append, List.nodup_append]
    refine ⟨hnodup, h.nodup.sublist (List.filter_sublist.map _), fun r hr r' hr' heq => ?_⟩
    subst heq
    exact hfresh r hr (h.used r (Wallet.mem_refsOf_unspent.mp hr').1)
  · intro r hr
    rcases (hrefs r).mp hr with hnew | ⟨hold, -⟩
    · exact List.mem_append_left _ hnew
    · exact List.mem_append_right _ (h.used r hold)
  · intro tx' htx' r hr
    have hgone : r ∈ s.used ∧ (r ∉ refsOf s.wallet.outputs ∨ r ∈ tx.inputs) := by
      rcases List.mem_cons.mp htx' with rfl | htx'
      · exact ⟨h.used r (hinputs r hr), Or.inr hr⟩
      · exact ⟨(h.gone tx' htx' r hr).1, Or.inl (h.gone tx' htx' r hr).2⟩
    refine ⟨List.mem_append_right _ hgone.1, fun hmem => ?_⟩
    rcases (hrefs r).mp hmem with hnew | ⟨hold, hnot⟩
    · exact hfresh r hnew hgone.1
    · exact hgone.2.elim (fun hout => hout hold) hnot
  · exact List.forall_mem_cons.mpr ⟨hnonempty, h.nonempty⟩
  · -- an input of something settled is no output of the wallet any more
    refine List.pairwise_cons.mpr ⟨fun tx' htx' r hr hr' => ?_, h.apart⟩
    exact (h.gone tx' htx' r hr').2 (hinputs r hr)
  · exact List.forall_mem_cons.mpr ⟨hmade, h.made⟩
  · have hbefore := h.worth
    simp only [List.map_cons, List.sum_cons]
    omega
  · intro o ho htoken
    have hold := h.kept o ho htoken
    show o ∈ after.outputs
    rw [houtputs]
    apply List.mem_append_right
    refine List.mem_filter.mpr ⟨hold, ?_⟩
    simp only [decide_eq_true_eq]
    intro hspent
    have hcoins := hcoinsOnly o (List.mem_filter.mpr ⟨hold, by simpa using hspent⟩)
    rw [htoken] at hcoins
    cases hcoins
  · intro key pool hkey hpool
    rcases pool_executeAll hexecute hkey hpool with hmem | ⟨key₁, hkey₁, hpool₁⟩
    · exact Or.inr ⟨tx, List.mem_cons_self, hmem⟩
    · obtain ⟨key₂, hkey₂, hpool₂⟩ := pool_withdraw hwithdrawn hkey₁
      rcases h.pool key₂ pool hkey₂ (hpool₂.trans hpool₁) with hfirst | ⟨tx', htx', hmem⟩
      · exact Or.inl hfirst
      · exact Or.inr ⟨tx', List.mem_cons_of_mem _ htx', hmem⟩

/-- The step lemma. -/
theorem Inv.step (h : Inv w₀ s) (hstep : Step Makes s a t) : Inv w₀ t := by
  cases hstep with
  | make hmakes => exact { h with made := fun tx htx => List.mem_cons_of_mem _ (h.made tx htx) }
  | settle hmade hnodup hfresh haccept => exact h.settle hmade hnodup hfresh haccept
  | reward hkey =>
      refine { h with worth := ?_, pool := ?_ }
      · have hworth := h.worth
        simp only [Wallet.worth, hkey, keyWorth_some] at hworth ⊢
        omega
      · intro key pool hafter hpool
        obtain rfl := Option.some.inj hafter
        exact h.pool _ pool hkey hpool
  | @receive o hfresh =>
      refine { h with nodup := ?_, used := ?_, gone := ?_, worth := ?_, kept := ?_ }
      · exact List.nodup_cons.mpr ⟨fun hmem => hfresh (h.used _ hmem), h.nodup⟩
      · exact List.forall_mem_cons.mpr
          ⟨List.mem_cons_self, fun r hr => List.mem_cons_of_mem _ (h.used r hr)⟩
      · intro tx htx r hr
        obtain ⟨hused, hnot⟩ := h.gone tx htx r hr
        refine ⟨List.mem_cons_of_mem _ hused, fun hmem => ?_⟩
        rcases List.mem_cons.mp hmem with rfl | hmem
        · exact hfresh hused
        · exact hnot hmem
      · have hworth := h.worth
        simp only [Wallet.worth, coinsOf, List.map_cons, List.sum_cons] at hworth ⊢
        omega
      · rintro o' (ho' | ho') htoken
        · exact List.mem_cons_of_mem _ (h.kept o' (Or.inl ho') htoken)
        · rcases List.mem_cons.mp ho' with rfl | ho'
          · exact List.mem_cons_self
          · exact List.mem_cons_of_mem _ (h.kept o' (Or.inr ho') htoken)
  | change => exact { h with }

omit [DecidableEq ρ] in
/-- Settled transactions with an input in common are one. -/
theorem Inv.eq_of_common_input (h : Inv w₀ s) {tx tx' : Tx ρ π} (htx : tx ∈ s.settled)
    (htx' : tx' ∈ s.settled) {r : ρ} (hr : r ∈ tx.inputs) (hr' : r ∈ tx'.inputs) : tx = tx' := by
  by_contra hne
  have : Std.Symm fun x y : Tx ρ π => x.inputs.Disjoint y.inputs := ⟨fun _ _ hd => hd.symm⟩
  exact h.apart.forall htx htx' hne hr hr'

/-- What has been made was allowed. -/
theorem makes_step (hs : ∀ tx ∈ s.made, ∃ s', Makes s' tx) (hstep : Step Makes s a t) :
    ∀ tx ∈ t.made, ∃ s', Makes s' tx := by
  cases hstep with
  | make hmakes => exact List.forall_mem_cons.mpr ⟨⟨s, hmakes⟩, hs⟩
  | settle | reward | receive | change => exact hs

end run

end GuardianStake.Found.WalletLedger
