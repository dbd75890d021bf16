import GuardianStake.Cardano.SignService

/-!
# The size of a serialized transaction

What a transaction takes up in CBOR, as far as its size matters: a fixed part for its shape, an
entry for each distinct input and witness, and the widths of its integers.

* `CborSizes` — the sizes of the pieces; `CardanoSdk.Serializes` says that the external SDK puts
  a transaction together from pieces of these sizes.
* `FeeParts` — what depends on the fee a staking transaction pays.
* `total_eq_restSize_add_partsSize` — **the split**: everything else takes the same space
  whatever the fee.
* `restSize_eq` — the transaction and the state of its account decide the rest.
-/

namespace GuardianStake.Cardano

open Sdk

/-! ## The pieces -/

/-- The kind of a certificate, apart from the keys in it. -/
inductive CertificateKind
  | stakeRegistration
  | stakeDeregistration
  | stakeDelegation
  deriving DecidableEq, Repr

/-- `cert.type`. -/
def CardanoCertificate.kind : CardanoCertificate → CertificateKind
  | .stakeRegistration _ => .stakeRegistration
  | .stakeDeregistration _ => .stakeDeregistration
  | .stakeDelegation _ _ => .stakeDelegation

/-- The shape of a body: what it holds besides inputs and numbers. -/
structure TxShape where
  addresses : List String
  certificates : List CertificateKind
  withdrawals : ℕ
  hasTtl : Bool
  deriving DecidableEq, Repr

/-- The shape of a body. -/
def TxBody.shape (body : TxBody) : TxShape where
  addresses := body.outputs.map TxOut.address
  certificates := body.certificates.map CardanoCertificate.kind
  withdrawals := body.withdrawals.length
  hasTtl := body.invalidHereafter.isSome

/-- The sizes of the pieces of a serialized transaction, in bytes. -/
structure CborSizes where
  /-- Everything that only the shape decides. -/
  fixedSize : TxShape → ℕ
  /-- The entry of a distinct witness. -/
  witnessSize : ℕ
  /-- The header of a set of so many inputs. -/
  setSize : ℕ → ℕ
  /-- The entry of a distinct input. -/
  inputSize : TxInput → ℕ
  /-- An integer. -/
  intSize : ℤ → ℕ

namespace CborSizes

variable (z : CborSizes)

/-- The inputs of a body. Inputs and witnesses are sets: duplicates collapse. -/
def inputsSize (inputs : List TxInput) : ℕ :=
  z.setSize inputs.dedup.length + (inputs.dedup.map z.inputSize).sum

/-- A transaction from its pieces. -/
def total (tx : SignedTransaction) : ℕ :=
  z.fixedSize tx.body.shape + z.inputsSize tx.body.inputs
    + (tx.body.outputs.map fun out => z.intSize out.coins).sum + z.intSize tx.body.fee
    + tx.body.invalidHereafter.elim 0 z.intSize
    + (tx.body.withdrawals.map fun w => z.intSize w.2).sum
    + z.witnessSize * tx.witnesses.dedup.length

end CborSizes

/-- What CBOR says of these sizes: integers take up what their widths say, the header of a set does
not shrink with the set, and a witness is a key of 32 bytes and a signature of 64, with headers. -/
structure CborSizes.Encodes (z : CborSizes) : Prop where
  intSize : z.intSize = cborUintSize
  setSize : Monotone z.setSize
  witnessSize : 100 ≤ z.witnessSize

/-- What the sizes of transactions rest on in the external SDK. -/
structure CardanoSdk.Serializes (sdk : CardanoSdk) (z : CborSizes) : Prop where
  /-- A transaction is put together from its pieces. -/
  txSize : ∀ tx, sdk.txSize tx = z.total tx
  /-- A key hash is read as hex, without regard to case. -/
  createRewardAccount : ∀ h h', sameHex h h' = true →
    sdk.createRewardAccount h = sdk.createRewardAccount h'

/-! ## The parts that depend on the fee -/

/-- The parts of a staking transaction that depend on the fee it pays. -/
structure FeeParts where
  inputs : List TxInput
  change : ℤ
  fee : ℤ
  ttl : ℤ
  deriving DecidableEq, Repr

/-- The body with these parts, for a change address, certificates and withdrawals. -/
def FeeParts.body (p : FeeParts) (address : String) (certificates : List CardanoCertificate)
    (withdrawals : List (String × ℤ)) : TxBody where
  inputs := p.inputs
  outputs := [{ address, coins := p.change }]
  fee := p.fee
  invalidHereafter := some p.ttl
  certificates := certificates
  withdrawals := withdrawals

namespace CborSizes

variable (z : CborSizes)

/-- The parts that depend on the fee, and so many distinct witnesses. -/
def partsSize (p : FeeParts) (witnesses : ℕ) : ℕ :=
  z.inputsSize p.inputs + z.intSize p.change + z.intSize p.fee + z.intSize p.ttl
    + z.witnessSize * witnesses

/-- More inputs take up more space. -/
theorem inputsSize_mono {z : CborSizes} (hz : z.Encodes) {inputs inputs' : List TxInput}
    (h : inputs ⊆ inputs') : z.inputsSize inputs ≤ z.inputsSize inputs' := by
  have hdedup : inputs.dedup ⊆ inputs'.dedup := fun input hinput =>
    List.mem_dedup.mpr (h (List.mem_dedup.mp hinput))
  obtain ⟨l, hperm, hsub⟩ := (List.nodup_dedup inputs).subperm hdedup
  have hsum : (inputs.dedup.map z.inputSize).sum ≤ (inputs'.dedup.map z.inputSize).sum := by
    rw [← (hperm.map z.inputSize).sum_eq]
    exact (hsub.map z.inputSize).sum_le_sum fun _ _ => Nat.zero_le _
  have hlength : inputs.dedup.length ≤ inputs'.dedup.length :=
    hperm.length_eq ▸ hsub.length_le
  exact Nat.add_le_add (hz.setSize hlength) hsum

/-- The other parts of a body with a change address, certificates and withdrawals. -/
def restSize (address : String) (certificates : List CardanoCertificate)
    (withdrawals : List (String × ℤ)) : ℕ :=
  z.fixedSize
      { addresses := [address]
        certificates := certificates.map CardanoCertificate.kind
        withdrawals := withdrawals.length
        hasTtl := true }
    + (withdrawals.map fun w => z.intSize w.2).sum

/-- **The split** into parts that depend on the fee and parts that do not. -/
theorem total_eq_restSize_add_partsSize (p : FeeParts) (address : String)
    (certificates : List CardanoCertificate) (withdrawals : List (String × ℤ))
    (witnesses : List TxWitness) :
    z.total { body := p.body address certificates withdrawals, witnesses } =
      z.restSize address certificates withdrawals + z.partsSize p witnesses.dedup.length := by
  simp only [total, restSize, partsSize, FeeParts.body, TxBody.shape, List.map_cons, List.map_nil,
    List.sum_cons, List.sum_nil, Option.isSome_some, Option.elim_some]
  omega

end CborSizes

/-! ### What a transaction decides of the rest -/

/-- The certificates of a transaction, by their kinds. -/
def certificateKinds (transaction : Transaction) (isStakeKeyRegistered : Bool) :
    List CertificateKind :=
  match transaction.type with
  | .delegate | .redelegate =>
      if isStakeKeyRegistered then [.stakeDelegation] else [.stakeRegistration, .stakeDelegation]
  | .undelegate => [.stakeDeregistration]
  | _ => []

/-- The amounts a transaction withdraws. -/
def withdrawnAmounts (transaction : Transaction) (rewardsOnChain : ℤ) : List ℤ :=
  if rewardAccountWithdrawal transaction rewardsOnChain ≤ 0 then []
  else [rewardAccountWithdrawal transaction rewardsOnChain]

/-- The bytes a staking transaction takes up apart from the parts that depend on its fee. -/
def CborSizes.restBytes (z : CborSizes) (transaction : Transaction) (isStakeKeyRegistered : Bool)
    (rewardsOnChain : ℤ) : ℕ :=
  z.fixedSize
      { addresses := [transaction.account.getD ""]
        certificates := certificateKinds transaction isStakeKeyRegistered
        withdrawals := (withdrawnAmounts transaction rewardsOnChain).length
        hasTtl := true }
    + ((withdrawnAmounts transaction rewardsOnChain).map z.intSize).sum

section rest

variable {sdk : CardanoSdk} {transaction : Transaction} {stakeKeyHashHex : String}
  {isStakeKeyRegistered : Bool} {rewardsOnChain : ℤ}

/-- The kinds of the certificates do not depend on the key hash. -/
theorem map_kind_buildCertificates {certificates : List CardanoCertificate}
    (h : buildCertificates sdk transaction stakeKeyHashHex isStakeKeyRegistered =
      .ok certificates) :
    certificates.map CardanoCertificate.kind =
      certificateKinds transaction isStakeKeyRegistered := by
  cases transaction with
  | delegate base isMax validator resource =>
      obtain ⟨v, -, h⟩ := bind_eq_ok.mp h
      obtain ⟨pool, -, h⟩ := bind_eq_ok.mp h
      rw [← Except.ok.inj h]
      cases isStakeKeyRegistered <;> rfl
  | redelegate base isMax fromValidator toValidator =>
      obtain ⟨pool, -, h⟩ := bind_eq_ok.mp h
      rw [← Except.ok.inj h]
      cases isStakeKeyRegistered <;> rfl
  | undelegate base isMax validator resource stakeAccount =>
      rw [← Except.ok.inj h]
      rfl
  | claimDelegate base validator index stakeAccount =>
      rw [← Except.ok.inj h]
      rfl
  | claimRewards base validator =>
      rw [← Except.ok.inj h]
      rfl
  | vote base validator =>
      rw [← Except.ok.inj h]
      rfl

/-- The amounts of the withdrawals do not depend on the key hash. -/
theorem map_snd_buildWithdrawals {withdrawals : List (String × ℤ)}
    (h : buildWithdrawals sdk transaction stakeKeyHashHex rewardsOnChain = .ok withdrawals) :
    withdrawals.map Prod.snd = withdrawnAmounts transaction rewardsOnChain := by
  unfold buildWithdrawals at h
  unfold withdrawnAmounts
  by_cases hle : rewardAccountWithdrawal transaction rewardsOnChain ≤ 0
  · simp only [if_pos hle] at h
    rw [← Except.ok.inj h, if_pos hle]
    rfl
  · simp only [if_neg hle] at h
    obtain ⟨-, -, h⟩ := bind_eq_ok.mp h
    obtain ⟨account, -, h⟩ := bind_eq_ok.mp h
    rw [← Except.ok.inj h, if_neg hle]
    rfl

/-- **The rest is decided by the transaction** and the account, whatever the spelling of the key
hash. -/
theorem restSize_eq (z : CborSizes) {certificates : List CardanoCertificate}
    {withdrawals : List (String × ℤ)}
    (hcertificates : buildCertificates sdk transaction stakeKeyHashHex isStakeKeyRegistered =
      .ok certificates)
    (hwithdrawals : buildWithdrawals sdk transaction stakeKeyHashHex rewardsOnChain =
      .ok withdrawals) :
    z.restSize (transaction.account.getD "") certificates withdrawals =
      z.restBytes transaction isStakeKeyRegistered rewardsOnChain := by
  have hamounts := map_snd_buildWithdrawals hwithdrawals
  have hlength : withdrawals.length = (withdrawnAmounts transaction rewardsOnChain).length := by
    simpa using congrArg List.length hamounts
  have hwidths : (withdrawals.map fun w => z.intSize w.2) =
      (withdrawnAmounts transaction rewardsOnChain).map z.intSize := by
    rw [← hamounts, List.map_map]
    rfl
  rw [CborSizes.restSize, CborSizes.restBytes, map_kind_buildCertificates hcertificates, hlength,
    hwidths]

end rest

end GuardianStake.Cardano
