import GuardianStake.Sdk.HostNames
import GuardianStake.Cardano.FeeService
import GuardianStake.Cardano.SigningPaths
import GuardianStake.Cardano.StakeAddress
import GuardianStake.Solana.BalanceService
import GuardianStake.Solana.FeeService
import GuardianStake.Tron.BalanceService
import GuardianStake.Tron.FeeService
import GuardianStake.Tron.SignService
import GuardianStake.Bsc.FeeService
import GuardianStake.Bsc.Validators

/-!
# The SDK over its chains

`sdk/index.ts`, which hands each call to the service of the chain it names, and the services the four
packages make: of their calls those whose arguments do not depend on the chain.

* `getService_eq_ok` — a chain is served by the service that was registered last under its id.
* `getBalances_types` — the balances returned for a chain are of the types its package lists.
* `estimateFee_typeText` — the fee a package quotes is of its own type.
* `typeText_of_signedBy` — and its sign service takes no other, Tron's apart, which takes any.
* `estimateFee_signedBy` — **a quote is not signed on another chain**: what the SDK quotes for a
  transaction is signed by the package of the chain it names, or by Tron.
-/

namespace GuardianStake

open Sdk

/-! ## The SDK -/

/-- What a call of the SDK throws: an error of its own, or what the service throws. -/
inductive SdkError
  | config (error : ConfigError)
  | service (thrown : Thrown)
  deriving DecidableEq, Repr

/-- Source: `service/guardian-service-contract.ts`, `GuardianServiceContract`. -/
structure GuardianServiceContract where
  getChainInfo : GuardianChain
  getBalances : String → Result (List Balance)
  estimateFee : Transaction → Result Fee

/-- Source: `sdk/index.ts`, `GuardianSDK`. -/
structure GuardianSDK where
  services : JsMap String GuardianServiceContract

namespace GuardianSDK

/-- The constructor: a map from the ids of the chains. -/
def create (services : List GuardianServiceContract) : GuardianSDK where
  services := (services.map fun s => (s.getChainInfo.id, s)).foldl
    (fun m e => m.set e.1 e.2) JsMap.empty

variable (sdk : GuardianSDK)

/-- Source: `sdk/index.ts`, `getService`. -/
def getService (chain : GuardianChain) : Except SdkError GuardianServiceContract :=
  match sdk.services.get chain.id with
  | some service => .ok service
  | none =>
      .error (.config ⟨.unsupportedChain,
        s!"No service registered for chain \"{chain.id}\". "
          ++ "Did you pass it to the GuardianSDK constructor?"⟩)

/-- Source: `sdk/index.ts`, `getBalances`. -/
def getBalances (chain : GuardianChain) (address : String) : Except SdkError (List Balance) := do
  let service ← sdk.getService chain
  (service.getBalances address).mapError .service

/-- Source: `sdk/index.ts`, `estimateFee`. -/
def estimateFee (transaction : Transaction) : Except SdkError Fee := do
  let service ← sdk.getService transaction.base.chain
  (service.estimateFee transaction).mapError .service

end GuardianSDK

section services

variable {services : List GuardianServiceContract} {service : GuardianServiceContract}
  {chain : GuardianChain} {tx : Transaction} {fee : Fee}

/-- **A chain is served by the service registered last under its id.** -/
theorem getService_eq_ok :
    (GuardianSDK.create services).getService chain = .ok service ↔
      services.reverse.find? (fun s => s.getChainInfo.id = chain.id) = some service := by
  have hget : (GuardianSDK.create services).services.get chain.id =
      services.reverse.find? fun s => s.getChainInfo.id = chain.id := by
    rw [GuardianSDK.create, JsMap.get_foldl_set, JsMap.get_empty, Option.or_none,
      ← List.map_reverse, List.find?_map, Option.map_map]
    exact congrFun Option.map_id _
  unfold GuardianSDK.getService
  rw [hget]
  cases services.reverse.find? fun s => s.getChainInfo.id = chain.id <;> simp

/-- **What a call of the SDK returns** is what a service for the chain returns. -/
theorem exists_of_call {α : Type} {call : GuardianServiceContract → Result α} {value : α}
    (h : (do
      let service ← (GuardianSDK.create services).getService chain
      (call service).mapError SdkError.service) = .ok value) :
    ∃ service ∈ services, service.getChainInfo.id = chain.id ∧ call service = .ok value := by
  obtain ⟨service, hservice, h⟩ := bind_eq_ok.mp h
  have hfind := getService_eq_ok.mp hservice
  refine ⟨service, List.mem_reverse.mp (List.mem_of_find?_eq_some hfind), ?_, ?_⟩
  · simpa using List.find?_some hfind
  · cases hcall : call service with
    | error thrown =>
        rw [hcall] at h
        cases h
    | ok returned =>
        rw [hcall] at h
        rw [Except.ok.inj h]

end services

/-! ## The packages -/

/-- The packages a service comes from. -/
inductive ChainPackage
  | bsc
  | cardano
  | solana
  | tron
  deriving DecidableEq, Repr

namespace ChainPackage

/-- Sources: `chain/index.ts`, `bscMainnet`, `cardanoMainnet`, `solanaMainnet` and `tronMainnet`. -/
def chain : ChainPackage → GuardianChain
  | bsc => { id := "bsc-mainnet", chainId := some "56" }
  | cardano => { id := "cardano-mainnet", chainId := none }
  | solana => { id := "solana-mainnet", chainId := none }
  | tron => { id := "tron-mainnet", chainId := none }

/-- The type of the fees a package quotes. -/
def feeType : ChainPackage → String
  | bsc => "GasFee"
  | cardano => "UtxoFee"
  | solana => "SolanaFee"
  | tron => "ResourceFee"

/-- The types of the balances a package lists. -/
def balanceTypes : ChainPackage → List BalanceType
  | bsc | solana => [.available, .staked, .pending, .claimable]
  | cardano => [.available, .staked, .rewards]
  | tron => [.available, .staked, .pending, .claimable, .rewards]

theorem eq_of_feeType_eq {package package' : ChainPackage}
    (h : package.feeType = package'.feeType) : package = package' := by
  cases package <;> cases package' <;> first | rfl | exact absurd h (by decide)

end ChainPackage

/-- Sources: `smartchain/index.ts`, `bsc`, and `cardano`, `solana` and `tron` of their packages: the
service is one a package makes, whatever its configuration and its clients are. -/
inductive FromPackage : ChainPackage → GuardianServiceContract → Prop
  | bsc (viem : Bsc.Viem) (rpc : Bsc.StakingRpcClient) (client : Bsc.GasClient)
      (getBalance : String → Result ℤ) (getDelegations : String → Result (List Delegation)) :
      FromPackage .bsc
        { getChainInfo := ChainPackage.bsc.chain
          getBalances := Bsc.getBalances viem getBalance getDelegations
          estimateFee := Bsc.estimateFee viem rpc client }
  | cardano (sdk : Cardano.CardanoSdk) (rpc : Cardano.BlockfrostRpcClient)
      (getAccount : String → Result Cardano.BlockfrostStakeAccount) :
      FromPackage .cardano
        { getChainInfo := ChainPackage.cardano.chain
          getBalances := Cardano.getBalances sdk getAccount
          estimateFee := Cardano.estimateFee sdk rpc }
  | solana (kit : Solana.SolanaKit) (signer : Solana.SigningKit) (W : Solana.PerEpochAmounts)
      (rpc : Solana.SolanaRpcClient) (getFeeForMessage : String → Result (Option ℕ))
      (cached : Option (List Solana.StakePosition)) (config : Solana.SolanaSignServiceConfig)
      (loadConfig : Solana.LoadPositionsConfig) :
      FromPackage .solana
        { getChainInfo := ChainPackage.solana.chain
          getBalances := Solana.getBalances kit W rpc cached loadConfig
          estimateFee := Solana.estimateFee kit signer rpc getFeeForMessage config }
  | tron (isAddress : String → Bool) (rpc : Tron.TronRpcClient)
      (getWitnessMap : Result (List Validator)) (now : ℤ) :
      FromPackage .tron
        { getChainInfo := ChainPackage.tron.chain
          getBalances := Tron.getBalances isAddress rpc now
          estimateFee := Tron.estimateFee isAddress rpc getWitnessMap }

/-- Some sign service of a package signs a transaction with a fee, with some keys. -/
def SignedBy (tx : Transaction) (fee : Fee) : ChainPackage → Prop
  | .bsc => ∃ viem rpc nonce signer signed,
      Bsc.sign viem rpc { transaction := tx, fee, nonce } signer = .ok signed
  | .cardano => ∃ sdk rpc paymentPrivateKey stakingPrivateKey signed,
      Cardano.sign sdk rpc { transaction := tx, fee, paymentPrivateKey, stakingPrivateKey } =
        .ok signed
  | .solana => ∃ kit signer rpc config nonce privateKey signed,
      Solana.sign kit signer rpc config { transaction := tx, fee, nonce, privateKey } = .ok signed
  | .tron => ∃ create nonce privateKey signed,
      Tron.sign create { transaction := tx, fee, nonce, privateKey } = .ok signed

section fees

variable {services : List GuardianServiceContract} {service : GuardianServiceContract}
  {package : ChainPackage} {tx : Transaction} {fee : Fee}

theorem FromPackage.getChainInfo (h : FromPackage package service) :
    service.getChainInfo = package.chain := by
  cases h <;> rfl

/-- A package lists its balances under its own types. -/
theorem FromPackage.types (hservice : FromPackage package service) {address : String}
    {bs : List Balance} (h : service.getBalances address = .ok bs) :
    bs.map Balance.type = package.balanceTypes := by
  cases hservice with
  | bsc viem rpc client getBalance getDelegations =>
      obtain ⟨_, -, h⟩ := bind_eq_ok.mp h
      obtain ⟨_, -, h⟩ := bind_eq_ok.mp h
      obtain ⟨_, -, h⟩ := bind_eq_ok.mp h
      obtain rfl := Except.ok.inj h
      rfl
  | cardano sdk rpc getAccount =>
      obtain ⟨_, -, h⟩ := bind_eq_ok.mp h
      obtain ⟨account, -, h⟩ := bind_eq_ok.mp h
      obtain ⟨_, -, h⟩ := bind_eq_ok.mp h
      obtain ⟨_, -, h⟩ := bind_eq_ok.mp h
      obtain rfl := Except.ok.inj h
      rfl
  | solana kit signer W rpc getFeeForMessage cached config loadConfig =>
      obtain ⟨_, -, h⟩ := bind_eq_ok.mp h
      obtain ⟨_, -, h⟩ := bind_eq_ok.mp h
      obtain rfl := Except.ok.inj h
      rfl
  | tron isAddress rpc getWitnessMap now =>
      obtain ⟨_, -, h⟩ := bind_eq_ok.mp h
      obtain ⟨_, -, h⟩ := bind_eq_ok.mp h
      obtain ⟨_, -, h⟩ := bind_eq_ok.mp h
      obtain rfl := Except.ok.inj h
      rfl

/-- **The balances the SDK returns for a chain** are of the types its package lists, in order. -/
theorem getBalances_types
    (hservices : ∀ service ∈ services, ∃ package, FromPackage package service)
    {chain : GuardianChain} {address : String} {bs : List Balance}
    (h : (GuardianSDK.create services).getBalances chain address = .ok bs) :
    ∃ package : ChainPackage, package.chain.id = chain.id ∧
      bs.map Balance.type = package.balanceTypes := by
  obtain ⟨service, hmem, hid, hbalances⟩ := exists_of_call h
  obtain ⟨package, hfrom⟩ := hservices service hmem
  exact ⟨package, hfrom.getChainInfo ▸ hid, hfrom.types hbalances⟩

/-- **The fee a package quotes is of its own type.** -/
theorem estimateFee_typeText (hservice : FromPackage package service)
    (h : service.estimateFee tx = .ok fee) : fee.typeText = package.feeType := by
  cases hservice with
  | bsc viem rpc client getBalance getDelegations =>
      obtain ⟨_, _, _, _, _, _, _, _, _, _, rfl⟩ := Bsc.estimateFee_eq_ok.mp h
      rfl
  | cardano sdk rpc getAccount =>
      obtain ⟨_, _, _, _, _, _, _, _, _, _, _, _, -, -, -, -, -, -, -, -, -, -, -, rfl⟩ :=
        Cardano.estimateFee_eq_ok h
      rfl
  | solana kit signer W rpc getFeeForMessage cached config loadConfig =>
      obtain ⟨_, _, _, _, _, _, _, _, _, _, rfl⟩ := Solana.estimateFee_eq_ok h
      rfl
  | tron isAddress rpc getWitnessMap now =>
      obtain ⟨_, _, _, rfl, _⟩ := Tron.estimateFee_total h
      rfl

/-- **A sign service takes no other fee**, Tron's apart. -/
theorem typeText_of_signedBy (h : SignedBy tx fee package) :
    package = .tron ∨ fee.typeText = package.feeType := by
  cases package with
  | bsc =>
      obtain ⟨viem, rpc, nonce, signer, signed, h⟩ := h
      obtain ⟨unsignedTx, hbuild, -⟩ := bind_eq_ok.mp h
      obtain ⟨callData, -, hbase⟩ := bind_eq_ok.mp hbuild
      cases fee with
      | gasFee gasPrice gasLimit total => exact .inr rfl
      | utxoFee | resourceFee | solanaFee => cases hbase
  | cardano =>
      obtain ⟨sdk, rpc, paymentPrivateKey, stakingPrivateKey, signed, h⟩ := h
      rw [Cardano.sign_eq] at h
      obtain ⟨⟨paymentPrivHex, stakingPrivHex, total⟩, hchecks, -⟩ := bind_eq_ok.mp h
      obtain ⟨-, -, -, ⟨txSizeBytes, rfl⟩, -⟩ := Cardano.signChecks_eq_ok.mp hchecks
      exact .inr rfl
  | solana =>
      obtain ⟨kit, signer, rpc, config, nonce, privateKey, signed, h⟩ := h
      obtain ⟨asserted, hfee, -⟩ := bind_eq_ok.mp h
      cases fee with
      | solanaFee computeUnits computeUnitPrice total => exact .inr rfl
      | gasFee | utxoFee | resourceFee => cases hfee
  | tron => exact .inl rfl

/-- **A quote is not signed on another chain**: the package that signs with it is the one of the
chain the quoted transaction names, unless it is Tron, which takes any fee. -/
theorem estimateFee_signedBy
    (hservices : ∀ service ∈ services, ∃ package, FromPackage package service)
    (h : (GuardianSDK.create services).estimateFee tx = .ok fee) {tx' : Transaction}
    (hsigned : SignedBy tx' fee package) :
    package = .tron ∨ tx.base.chain.id = package.chain.id := by
  refine (typeText_of_signedBy hsigned).imp_right fun htype => ?_
  obtain ⟨service, hmem, hid, hquote⟩ := exists_of_call h
  obtain ⟨quoting, hfrom⟩ := hservices service hmem
  have hsame : quoting = package :=
    ChainPackage.eq_of_feeType_eq ((estimateFee_typeText hfrom hquote).symm.trans htype)
  rw [← hid, hfrom.getChainInfo, hsame]

end fees

/-! ### A quoted Delegate -/

/-- A node that reports 5 gwei and 18261 gas. -/
def fiveGweiClient : Bsc.GasClient where
  getGasPrice := .ok 5000000000
  estimateGas := fun _ _ _ _ => .ok 18261

/-- An SDK for Tron and BSC. -/
def twoServices : List GuardianServiceContract :=
  [{ getChainInfo := ChainPackage.tron.chain
     getBalances := Tron.getBalances (fun _ => true) Tron.exhaustedRpc 0
     estimateFee := Tron.estimateFee (fun _ => true) Tron.exhaustedRpc (.ok []) },
    { getChainInfo := ChainPackage.bsc.chain
      getBalances := Bsc.getBalances Bsc.delegateViem (fun _ => .ok 0) fun _ => .ok []
      estimateFee := Bsc.estimateFee Bsc.delegateViem Bsc.noShares fiveGweiClient }]

/-- The quote for a Delegate on BSC, and its signature there. -/
theorem estimateFee_signedBy_bsc :
    (GuardianSDK.create twoServices).estimateFee
        (Bsc.delegateArgs Bsc.signerAddress).transaction =
        .ok (.gasFee 5000000000 21000 105000000000000) ∧
      SignedBy (Bsc.delegateArgs Bsc.signerAddress).transaction
        (.gasFee 5000000000 21000 105000000000000) .bsc ∧
      (ChainPackage.bsc = .tron ∨
        (Bsc.delegateArgs Bsc.signerAddress).transaction.base.chain.id =
          ChainPackage.bsc.chain.id) := by
  have hservices : ∀ service ∈ twoServices, ∃ package, FromPackage package service := by
    intro service hservice
    rcases List.mem_pair.mp hservice with rfl | rfl
    · exact ⟨.tron, .tron (fun _ => true) Tron.exhaustedRpc (.ok []) 0⟩
    · exact ⟨.bsc, .bsc Bsc.delegateViem Bsc.noShares fiveGweiClient (fun _ => .ok 0)
        fun _ => .ok []⟩
  have hquote : (GuardianSDK.create twoServices).estimateFee
      (Bsc.delegateArgs Bsc.signerAddress).transaction =
      .ok (.gasFee 5000000000 21000 105000000000000) := by
    decide +kernel
  have hsign : Bsc.sign Bsc.delegateViem Bsc.noShares (Bsc.delegateArgs Bsc.signerAddress)
      (.privateKey Bsc.signerKey) = .ok Bsc.delegateSigned := by
    decide +kernel
  have hsigned : SignedBy (Bsc.delegateArgs Bsc.signerAddress).transaction
      (.gasFee 5000000000 21000 105000000000000) .bsc :=
    ⟨Bsc.delegateViem, Bsc.noShares, .int 1, .privateKey Bsc.signerKey, _, hsign⟩
  exact ⟨hquote, hsigned, estimateFee_signedBy hservices hquote hsigned⟩

end GuardianStake
