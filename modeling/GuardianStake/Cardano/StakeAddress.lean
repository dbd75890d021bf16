import GuardianStake.Cardano.SignService

/-!
# The stake address of an address

`resolveStakeAddress` of `validations.ts`, and `getBalances` and `getDelegations`, which read the
account it names. An address text is the address it encodes, with the credentials it is made of.

* `Cip19Address` — the eleven types of addresses on two networks.
* `ParsesCip19` — the external SDK reads these addresses, and builds the reward address of a key.
* `resolveStakeAddress_keepsCredential_iff` — **when the stake credential is kept**: unless it is a
  script in a base address.

Of `getDelegations` the list is modelled; the summary and the reads that feed only it are left out.
-/

namespace GuardianStake.Cardano

open Sdk

/-! ## Addresses -/

/-- What a credential is the hash of. -/
inductive CredentialKind
  | key
  | script
  deriving DecidableEq, Repr

/-- A credential: a hash in hex, and its kind. -/
structure Credential where
  kind : CredentialKind
  hash : String
  deriving DecidableEq, Repr

/-- The network of an address. -/
inductive Network
  | mainnet
  | testnet
  deriving DecidableEq, Repr

/-- An address by what it is made of; with the kinds of its credentials these are eleven types. -/
inductive Cip19Address
  | base (network : Network) (payment stake : Credential)
  | pointer (network : Network) (payment : Credential) (slot txIndex certIndex : ℕ)
  | enterprise (network : Network) (payment : Credential)
  | reward (network : Network) (stake : Credential)
  | byron (network : Network) (root : String)
  deriving DecidableEq, Repr

namespace Cip19Address

/-- The network. -/
def network : Cip19Address → Network
  | base network _ _ | pointer network _ _ _ _ | enterprise network _ | reward network _
  | byron network _ => network

/-- The type of the reward address of a credential. -/
def rewardType : CredentialKind → AddressType
  | .key => .rewardKey
  | .script => .rewardScript

/-- What the external SDK says of an address. -/
def toAddress : Cip19Address → Address
  | base network payment stake =>
      { type := .base, isMainnet := network = .mainnet
        asBase := some { paymentKeyHashHex := payment.hash, stakeKeyHashHex := stake.hash } }
  | pointer network _ _ _ _ =>
      { type := .pointer, isMainnet := network = .mainnet, asBase := none }
  | enterprise network _ =>
      { type := .enterprise, isMainnet := network = .mainnet, asBase := none }
  | reward network stake =>
      { type := rewardType stake.kind, isMainnet := network = .mainnet, asBase := none }
  | byron network _ => { type := .byron, isMainnet := network = .mainnet, asBase := none }

/-- The credential a mainnet address delegates with. -/
def delegationCredential : Cip19Address → Option Credential
  | base .mainnet _ stake => some stake
  | reward .mainnet stake => some stake
  | _ => none

/-- A mainnet base address that delegates with a script. -/
def IsScriptStaked (address : Cip19Address) : Prop :=
  ∃ payment hash, address = base .mainnet payment ⟨.script, hash⟩

end Cip19Address

/-- The documented behaviour of the external SDK on address texts: `Address.fromString` parses
them, the hash of a credential that is read from one is branded as it is, and of such a hash
`createRewardAccount` builds the mainnet reward address of a key. -/
structure ParsesCip19 (sdk : CardanoSdk) (decode : String → Option Cip19Address) : Prop where
  parseAddress : ∀ s, sdk.parseAddress s = (decode s).map Cip19Address.toAddress
  isKeyHash : ∀ {s network payment stake}, decode s = some (.base network payment stake) →
    sdk.isKeyHash stake.hash = true
  createRewardAccount : ∀ {s network payment stake},
    decode s = some (.base network payment stake) →
      decode (sdk.createRewardAccount stake.hash) = some (.reward .mainnet ⟨.key, stake.hash⟩)

/-! ## The code -/

/-- Source: `rpc/blockfrost-rpc-types.ts`, `BlockfrostAccount`, with what the reads of balances and
delegations take from it. -/
structure BlockfrostStakeAccount extends BlockfrostAccount where
  controlledAmount : String
  poolId : Option String
  deriving DecidableEq, Repr

/-- `account.pool_id`, where it is truthy. -/
def BlockfrostStakeAccount.pool (account : BlockfrostStakeAccount) : Option String :=
  account.poolId.filter (· ≠ "")

section code

variable (sdk : CardanoSdk) (getAccount : String → Result BlockfrostStakeAccount)

/-- Source: `validations.ts`, `resolveStakeAddress`. -/
def resolveStakeAddress (address : String) : Result String :=
  match sdk.parseAddress address with
  | none => .error (.validation .invalidAddress s!"Cannot parse Cardano address: \"{address}\".")
  | some parsed =>
      if !parsed.isMainnet then
        .error (.validation .invalidAddress
          s!"Expected a mainnet address, got a testnet address: \"{address}\".")
      else if parsed.type = .rewardKey ∨ parsed.type = .rewardScript then .ok address
      else
        match parsed.asBase with
        | none =>
            .error (.validation .invalidAddress
              (s!"Address \"{address}\" has no staking component. Provide a base address "
                ++ "(addr1q...) or stake address (stake1...)."))
        | some base => do
            let stakeCred ← brand sdk.isKeyHash base.stakeKeyHashHex
            return sdk.createRewardAccount stakeCred

/-- `getBalances` from the account on. -/
def accountBalances (account : BlockfrostStakeAccount) : Result (List Balance) := do
  let controlledAmount ← parseLovelaceString account.controlledAmount "controlled_amount"
  let rewards ← parseLovelaceString account.withdrawableAmount "withdrawable_amount"
  let walletAmount := controlledAmount - rewards
  let stakedAmount := if account.pool.isSome then walletAmount else 0
  return [{ type := .available, amount := walletAmount },
    { type := .staked, amount := stakedAmount }, { type := .rewards, amount := rewards }]

/-- Source: `services/balance-service.ts`, `getBalances`. -/
def getBalances (address : String) : Result (List Balance) := do
  let stakeAddress ← resolveStakeAddress sdk address
  let account ← getAccount stakeAddress
  accountBalances account

/-- `getDelegations` from the account on; `getValidator` reads a pool and its metadata. -/
def accountDelegations (getValidator : String → Result Validator)
    (account : BlockfrostStakeAccount) : Result (List Delegation) :=
  match account.active, account.pool with
  | true, some poolId => do
      let validator ← getValidator poolId
      let amount ← parseLovelaceString account.controlledAmount "controlled_amount"
      return [{ id := s!"delegation_active_{poolId}", validator, amount, status := .active
                delegationIndex := 0, pendingUntil := 0 }]
  | _, _ => .ok []

/-- Source: `services/staking-service.ts`, `getDelegations`. -/
def getDelegations (getValidator : String → Result Validator) (address : String) :
    Result (List Delegation) := do
  let stakeAddress ← resolveStakeAddress sdk address
  let account ← getAccount stakeAddress
  accountDelegations getValidator account

end code

/-! ## What is resolved -/

/-- A node that answers for the account of each credential. -/
def AnswersAccounts (decode : String → Option Cip19Address)
    (getAccount : String → Result BlockfrostStakeAccount)
    (accounts : Credential → Result BlockfrostStakeAccount) : Prop :=
  ∀ stakeAddress credential, decode stakeAddress = some (.reward .mainnet credential) →
    getAccount stakeAddress = accounts credential

/-- An address text is resolved to the reward address of its credential, and to nothing if it
delegates with none; balances and delegations are those of the credential's account. -/
structure KeepsCredential (sdk : CardanoSdk) (decode : String → Option Cip19Address) (s : String)
    (address : Cip19Address) : Prop where
  resolves_iff : (∃ stakeAddress, resolveStakeAddress sdk s = .ok stakeAddress) ↔
    ∃ credential, address.delegationCredential = some credential
  carries : ∀ {stakeAddress}, resolveStakeAddress sdk s = .ok stakeAddress →
    ∃ credential, address.delegationCredential = some credential ∧
      decode stakeAddress = some (.reward .mainnet credential)
  reads : ∀ {getAccount accounts credential}, AnswersAccounts decode getAccount accounts →
    address.delegationCredential = some credential →
      getBalances sdk getAccount s = (do accountBalances (← accounts credential)) ∧
        ∀ getValidator, getDelegations sdk getAccount getValidator s =
          (do accountDelegations getValidator (← accounts credential))

section resolve

variable {sdk : CardanoSdk} {decode : String → Option Cip19Address} {s : String}
  {address : Cip19Address} {credential payment : Credential}

/-- A reward address is returned as it is. -/
theorem resolveStakeAddress_reward (hsdk : ParsesCip19 sdk decode)
    (hdecode : decode s = some (.reward .mainnet credential)) :
    resolveStakeAddress sdk s = .ok s := by
  have htype : Cip19Address.rewardType credential.kind = .rewardKey ∨
      Cip19Address.rewardType credential.kind = .rewardScript := by
    cases credential.kind <;> simp [Cip19Address.rewardType]
  rw [resolveStakeAddress, hsdk.parseAddress, hdecode]
  simp only [Option.map_some, Cip19Address.toAddress, if_pos htype]
  rfl

/-- Of a base address the hash is taken, as that of a key. -/
theorem resolveStakeAddress_base (hsdk : ParsesCip19 sdk decode)
    (hdecode : decode s = some (.base .mainnet payment credential)) :
    resolveStakeAddress sdk s = .ok (sdk.createRewardAccount credential.hash) := by
  have hbrand : brand sdk.isKeyHash credential.hash = .ok credential.hash :=
    if_pos (hsdk.isKeyHash hdecode)
  rw [resolveStakeAddress, hsdk.parseAddress, hdecode]
  simp only [Option.map_some, Cip19Address.toAddress, hbrand]
  rfl

/-- Every other address is rejected. -/
theorem resolveStakeAddress_error (hsdk : ParsesCip19 sdk decode)
    (hdecode : decode s = some address) (hnone : address.delegationCredential = none) :
    ∃ message, resolveStakeAddress sdk s = .error (.validation .invalidAddress message) := by
  rw [resolveStakeAddress, hsdk.parseAddress, hdecode]
  simp only [Option.map_some]
  cases hnetwork : address.network with
  | testnet =>
      have htestnet : address.toAddress.isMainnet = false := by
        cases address <;> simp_all [Cip19Address.toAddress, Cip19Address.network]
      rw [htestnet]
      exact ⟨_, rfl⟩
  | mainnet =>
      cases address with
      | base network _ stake => simp_all [Cip19Address.network, Cip19Address.delegationCredential]
      | reward network stake => simp_all [Cip19Address.network, Cip19Address.delegationCredential]
      | pointer network _ _ _ _ =>
          obtain rfl : network = .mainnet := hnetwork
          exact ⟨_, rfl⟩
      | enterprise network _ =>
          obtain rfl : network = .mainnet := hnetwork
          exact ⟨_, rfl⟩
      | byron network _ =>
          obtain rfl : network = .mainnet := hnetwork
          exact ⟨_, rfl⟩

/-- The credential an address delegates with is that of a base or of a reward address. -/
theorem delegationCredential_eq_some (h : address.delegationCredential = some credential) :
    (∃ payment, address = .base .mainnet payment credential) ∨
      address = .reward .mainnet credential := by
  unfold Cip19Address.delegationCredential at h
  split at h
  · obtain rfl := Option.some.inj h
    exact Or.inl ⟨_, rfl⟩
  · obtain rfl := Option.some.inj h
    exact Or.inr rfl
  · cases h

/-- Every address that delegates is resolved. -/
theorem exists_resolveStakeAddress (hsdk : ParsesCip19 sdk decode)
    (hdecode : decode s = some address) (h : address.delegationCredential = some credential) :
    ∃ stakeAddress, resolveStakeAddress sdk s = .ok stakeAddress := by
  rcases delegationCredential_eq_some h with ⟨payment, rfl⟩ | rfl
  · exact ⟨_, resolveStakeAddress_base hsdk hdecode⟩
  · exact ⟨_, resolveStakeAddress_reward hsdk hdecode⟩

/-- What is resolved carries the credential, unless it is the script of a base address. -/
theorem resolveStakeAddress_carries (hsdk : ParsesCip19 sdk decode)
    (hdecode : decode s = some address) (h : address.delegationCredential = some credential)
    (hscript : ¬address.IsScriptStaked) {stakeAddress : String}
    (hresolve : resolveStakeAddress sdk s = .ok stakeAddress) :
    decode stakeAddress = some (.reward .mainnet credential) := by
  rcases delegationCredential_eq_some h with ⟨payment, rfl⟩ | rfl
  · rw [resolveStakeAddress_base hsdk hdecode] at hresolve
    obtain rfl := Except.ok.inj hresolve
    obtain ⟨kind, hash⟩ := credential
    cases kind with
    | key => exact hsdk.createRewardAccount hdecode
    | script => exact absurd ⟨payment, hash, rfl⟩ hscript
  · rw [resolveStakeAddress_reward hsdk hdecode] at hresolve
    exact Except.ok.inj hresolve ▸ hdecode

/-- **When the stake credential is kept**, and the credential's own account is read: unless it is a
script in a mainnet base address. -/
theorem resolveStakeAddress_keepsCredential_iff (hsdk : ParsesCip19 sdk decode)
    (hdecode : decode s = some address) :
    KeepsCredential sdk decode s address ↔ ¬address.IsScriptStaked := by
  constructor
  · rintro hkeeps ⟨payment, hash, rfl⟩
    -- the hash of the script comes back as that of a key
    obtain ⟨credential, hcredential, hcarried⟩ :=
      hkeeps.carries (resolveStakeAddress_base hsdk hdecode)
    obtain rfl := Option.some.inj hcredential
    rw [hsdk.createRewardAccount hdecode] at hcarried
    simp at hcarried
  · intro hscript
    have hexists : (∃ stakeAddress, resolveStakeAddress sdk s = .ok stakeAddress) ↔
        ∃ credential, address.delegationCredential = some credential := by
      constructor
      · rintro ⟨stakeAddress, hresolve⟩
        cases hcredential : address.delegationCredential with
        | some credential => exact ⟨credential, rfl⟩
        | none =>
            obtain ⟨message, herror⟩ := resolveStakeAddress_error hsdk hdecode hcredential
            rw [herror] at hresolve
            cases hresolve
      · rintro ⟨credential, hcredential⟩
        exact exists_resolveStakeAddress hsdk hdecode hcredential
    refine ⟨hexists, ?_, ?_⟩
    · intro stakeAddress hresolve
      obtain ⟨credential, hcredential⟩ := hexists.mp ⟨stakeAddress, hresolve⟩
      exact ⟨credential, hcredential,
        resolveStakeAddress_carries hsdk hdecode hcredential hscript hresolve⟩
    · intro getAccount accounts credential hanswers hcredential
      obtain ⟨stakeAddress, hresolve⟩ := hexists.mpr ⟨credential, hcredential⟩
      have haccount : getAccount stakeAddress = accounts credential :=
        hanswers stakeAddress credential
          (resolveStakeAddress_carries hsdk hdecode hcredential hscript hresolve)
      refine ⟨?_, fun getValidator => ?_⟩
      · rw [getBalances, hresolve, ← haccount]
        rfl
      · rw [getDelegations, hresolve, ← haccount]
        rfl

end resolve

section vectors

/-- The hash of a script. -/
def vectorScriptHash : String := "c37b1b5dc0669f1d3c61a6fddb2e8fde96be87b881c60bce8e8d542f"

/-- A base address that delegates with that script. -/
def scriptStakedAddress : String :=
  "addr1yx2fxv2umyhttkxyxp8x0dlpdt3k6cwng5pxj3jhsydzerkr0vd4msrxnuwnccdxlhdjar77j6lg0wypcc9uar5d2s"
    ++ "hs2z78ve"

/-- The reward address of a key with the hash of the script. -/
def scriptHashKeyReward : String := "stake1u8phkx6acpnf78fuvxn0mkew3l0fd058hzquvz7w36x4gtc3scc95"

/-- The payment key of the addresses. -/
def vectorPayment : Credential :=
  ⟨.key, "9493315cd92eb5d8c4304e67b7e16ae36d61d34502694657811a2c8e"⟩

/-- What the address texts encode. -/
def decodeVector (s : String) : Option Cip19Address :=
  if s = vectorAddress then some (.base .mainnet vectorPayment ⟨.key, vectorStakeKeyHash⟩)
  else if s = scriptStakedAddress then
    some (.base .mainnet vectorPayment ⟨.script, vectorScriptHash⟩)
  else if s = vectorStakeAddress then some (.reward .mainnet ⟨.key, vectorStakeKeyHash⟩)
  else if s = scriptHashKeyReward then some (.reward .mainnet ⟨.key, vectorScriptHash⟩)
  else none

/-- The external SDK on these texts. -/
def cip19Sdk : CardanoSdk :=
  { vectorSdk with
    parseAddress := fun s => (decodeVector s).map Cip19Address.toAddress
    createRewardAccount := fun hash =>
      if hash = vectorStakeKeyHash then vectorStakeAddress else scriptHashKeyReward }

/-- The stake hashes in the base addresses. -/
theorem stakeHash_of_decodeVector {s : String} {network : Network} {payment stake : Credential}
    (h : decodeVector s = some (.base network payment stake)) :
    stake.hash = vectorStakeKeyHash ∨ stake.hash = vectorScriptHash := by
  unfold decodeVector at h
  split_ifs at h
  · cases h
    exact Or.inl rfl
  · cases h
    exact Or.inr rfl
  · cases h
  · cases h

/-- It parses the texts of these addresses. -/
theorem parsesCip19_cip19Sdk : ParsesCip19 cip19Sdk decodeVector where
  parseAddress := fun _ => rfl
  isKeyHash := fun hdecode => by
    rcases stakeHash_of_decodeVector hdecode with h | h <;> rw [h] <;> decide +kernel
  createRewardAccount := fun hdecode => by
    rcases stakeHash_of_decodeVector hdecode with h | h <;> rw [h] <;> decide +kernel

/-- A base address with a stake key is resolved to its reward address. -/
theorem resolveStakeAddress_keepsCredential_vector :
    KeepsCredential cip19Sdk decodeVector vectorAddress
      (.base .mainnet vectorPayment ⟨.key, vectorStakeKeyHash⟩) :=
  (resolveStakeAddress_keepsCredential_iff parsesCip19_cip19Sdk (by decide +kernel)).mpr
    (by rintro ⟨payment, hash, h⟩; simp at h)

/-- A base address that delegates with a script is resolved to the reward address of a key. -/
theorem resolveStakeAddress_scriptStaked :
    resolveStakeAddress cip19Sdk scriptStakedAddress = .ok scriptHashKeyReward ∧
      decodeVector scriptHashKeyReward = some (.reward .mainnet ⟨.key, vectorScriptHash⟩) ∧
      ¬KeepsCredential cip19Sdk decodeVector scriptStakedAddress
        (.base .mainnet vectorPayment ⟨.script, vectorScriptHash⟩) := by
  have hresolve : resolveStakeAddress cip19Sdk scriptStakedAddress = .ok scriptHashKeyReward := by
    decide +kernel
  have hdecode : decodeVector scriptHashKeyReward =
      some (.reward .mainnet ⟨.key, vectorScriptHash⟩) := by decide +kernel
  refine ⟨hresolve, hdecode, fun hkeeps => ?_⟩
  obtain ⟨credential, hcredential, hcarried⟩ := hkeeps.carries hresolve
  obtain rfl := Option.some.inj hcredential
  rw [hdecode] at hcarried
  simp at hcarried

end vectors

end GuardianStake.Cardano
