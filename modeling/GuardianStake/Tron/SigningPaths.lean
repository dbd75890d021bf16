import GuardianStake.Tron.ExactAmounts
import GuardianStake.Tron.SignService

/-!
# The two signing paths on Tron

`sign` on the one hand, `prehash`, an external signer and `compile` on the other, of
`services/sign-service.ts`.

* `checkCompile_eq_ok` — what `compile` has checked when it returns.
* `sign_eq_prehashAndCompile` — **the paths agree**, in what they return and in what they throw:
  direct signing is the external path with the account of the key filled in, whatever account was
  named.
* `compile_packs_as_built` — **what compile returns is what was built**: whatever is done to the
  arguments after `prehash`, the accepted transaction packs to the bytes TronWeb built for it, or
  the two packings collide under the hash.
-/

namespace GuardianStake.Tron

open Sdk Found

/-! ## What is relied on -/

/-- The owner a contract is asked for with. -/
def TronContract.ownerAddress : TronContract → String
  | .freezeBalanceV2 _ _ ownerAddress | .unfreezeBalanceV2 _ _ ownerAddress => ownerAddress
  | .vote _ ownerAddress => ownerAddress
  | .withdrawExpireUnfreeze ownerAddress | .withdrawBlockRewards ownerAddress => ownerAddress

/-- The encodings of TronWeb: the raw data of a transaction packed to hex, an address in hex, and
the signature a key makes of an id. -/
structure TronCodec where
  pack : JsValue → Option String
  addressHex : String → String
  signatureOf : (key txId : String) → String

/-- What is relied on of TronWeb. All clients build alike, on one block. What is built is unsigned,
carries its packed raw data and the hash of it as id, and names the owner. `txCheck` packs the raw
data again. A client with a key signs the id of a transaction of its own, and the signature of a hash
of packed data recovers to its address. -/
structure TronCodec.Lawful (codec : TronCodec) (create : Option String → TronWeb)
    (utils : TronUtils) : Prop where
  builder : ∀ key, (create key).transactionBuilder = (create none).transactionBuilder
  built : ∀ {contract tx}, (create none).transactionBuilder contract = .ok tx →
    ∃ hex, hex ≠ "" ∧ codec.pack tx = some hex ∧ stringField tx "raw_data_hex" = some hex ∧
      stringField tx "txID" = some (utils.sha256 hex) ∧ tx.get "signature" = none ∧
      extractOwnerAddressHex tx = some (codec.addressHex contract.ownerAddress)
  txCheck : ∀ {tx}, utils.txCheck tx = .ok true ↔
    ∃ hex, codec.pack tx = some hex ∧ stringField tx "txID" = some (utils.sha256 hex)
  address : ∀ {key address}, (create (some key)).defaultAddress = some address →
    address ≠ "" ∧ utils.isAddress address = true ∧ codec.addressHex address ≠ ""
  signs : ∀ {key address tx txId}, (create (some key)).defaultAddress = some address →
    extractOwnerAddressHex tx = some (codec.addressHex address) → utils.txCheck tx = .ok true →
    tx.get "signature" = none → stringField tx "txID" = some txId →
    (create (some key)).sign tx =
      .ok (tx.set "signature" (.array [.string (codec.signatureOf key txId)]))
  recovers : ∀ {key address tx hex}, (create (some key)).defaultAddress = some address →
    codec.pack tx = some hex →
      codec.signatureOf key (utils.sha256 hex) ≠ "" ∧ ∃ recovered,
        utils.ecRecover (utils.sha256 hex) (codec.signatureOf key (utils.sha256 hex)) =
          .ok recovered ∧
        toLowerCase recovered = toLowerCase (codec.addressHex address)

/-! ## What compile has checked -/

/-- A raw transaction with an id of its own that a signature is good for. -/
structure SignedFor (utils : TronUtils) (rawTx : JsValue) (signature txId : String) : Prop where
  signature_ne : signature ≠ ""
  rawDataHex : ∃ hex, stringField rawTx "raw_data_hex" = some hex ∧ hex ≠ "" ∧
    utils.sha256 hex = txId
  idField : stringField rawTx "txID" = some txId
  bound : utils.txCheck rawTx = .ok true
  recovers : ∃ owner recovered, extractOwnerAddressHex rawTx = some owner ∧ owner ≠ "" ∧
    utils.ecRecover txId signature = .ok recovered ∧ toLowerCase recovered = toLowerCase owner

section checks

variable {utils : TronUtils} {rawTx : JsValue} {signature : String}

/-- **What compile has checked when it accepts.** -/
theorem checkCompile_eq_ok :
    checkCompile utils rawTx signature = .ok () ↔ ∃ txId, SignedFor utils rawTx signature txId := by
  unfold checkCompile
  constructor
  · intro h
    obtain ⟨hsignature, h⟩ := guard_eq_ok.mp h
    obtain ⟨hhex, h⟩ := guard_eq_ok.mp h
    obtain ⟨hid, h⟩ := guard_eq_ok.mp h
    obtain ⟨hbound, h⟩ := guard_eq_ok.mp h
    obtain ⟨howner, h⟩ := guard_eq_ok.mp h
    have hcheck : utils.txCheck rawTx = .ok true := by
      cases hresult : utils.txCheck rawTx with
      | error e => simp [hresult] at hbound
      | ok bound => simpa [hresult] using hbound
    split at h
    · cases h
    · next recovered hrecovered =>
        have hsame : toLowerCase recovered =
            toLowerCase ((extractOwnerAddressHex rawTx).getD "") := by
          by_contra hne
          rw [if_pos hne] at h
          cases h
        exact ⟨_, hsignature, ⟨_, eq_some_getD hhex, hhex, rfl⟩, (not_not.mp hid).symm, hcheck,
          ⟨_, recovered, eq_some_getD howner, howner, hrecovered, hsame⟩⟩
  · rintro ⟨txId, h⟩
    obtain ⟨hex, hhex, hne, rfl⟩ := h.rawDataHex
    obtain ⟨owner, recovered, howner, hne', hrecovered, hsame⟩ := h.recovers
    rw [hhex, howner, h.idField, h.bound]
    refine guard_eq_ok.mpr ⟨h.signature_ne, guard_eq_ok.mpr ⟨hne, guard_eq_ok.mpr ⟨not_not.mpr rfl,
      guard_eq_ok.mpr ⟨by simp, guard_eq_ok.mpr ⟨hne', ?_⟩⟩⟩⟩⟩
    simp only [Option.getD_some, hrecovered, hsame, ne_eq, not_true_eq_false, if_false]
    rfl

/-- **Compile** attaches the signature to what it has checked. -/
theorem compile_eq_ok {signArgs : TronSignArgs} {text : Document} :
    compile utils { signArgs, signature } = .ok text ↔
      ∃ rawTx txId, signArgs.rawTx = some rawTx ∧ SignedFor utils rawTx signature txId ∧
        stringify (rawTx.set "signature" (.array [.string signature])) = .ok text := by
  unfold compile
  cases hraw : signArgs.rawTx with
  | none =>
      constructor
      · intro h
        cases h
      · rintro ⟨_, _, h, -⟩
        cases h
  | some rawTx =>
      simp only [bind_eq_ok]
      constructor
      · rintro ⟨_, hcheck, h⟩
        obtain ⟨txId, hsigned⟩ := checkCompile_eq_ok.mp hcheck
        exact ⟨rawTx, txId, rfl, hsigned, h⟩
      · rintro ⟨_, txId, heq, hsigned, h⟩
        obtain rfl := Option.some.inj heq
        exact ⟨(), checkCompile_eq_ok.mpr ⟨txId, hsigned⟩, h⟩

end checks

/-! ## The paths agree -/

section agree

variable (create : Option String → TronWeb) (utils : TronUtils) (codec : TronCodec)

/-- An external signer with a key: it signs the id it is sent. -/
def signExternally (key : String) : Option JsValue → Result String
  | some (.string txId) => .ok (codec.signatureOf key txId)
  | _ => .error (.foreign "no id to sign")

/-- The external path: `prehash`, the external signer, `compile`. -/
def prehashAndCompile (args : BaseSignArgs) (key : String) : Result Document := do
  let result ← prehash create utils args
  let signature ← signExternally codec key result.serializedTransaction
  compile utils { signArgs := result.signArgs, signature }

variable {create utils codec}

/-- The account of a transaction is not looked at where it is built. -/
theorem buildUnsignedTx_withAccount (tx : Transaction) (account ownerAddress : String) :
    buildUnsignedTx (tx.withAccount account) ownerAddress = buildUnsignedTx tx ownerAddress := by
  cases tx <;> rfl

/-- What is built for an owner belongs to it. -/
theorem ownerAddress_of_buildUnsignedTx {tx : Transaction} {ownerAddress : String}
    {contract : TronContract} (h : buildUnsignedTx tx ownerAddress = .ok contract) :
    contract.ownerAddress = ownerAddress := by
  cases tx with
  | delegate base isMaxAmount validator resource =>
      obtain ⟨-, -, r, rfl⟩ := buildUnsignedTx_delegate_eq_ok h
      rfl
  | undelegate base isMaxAmount validator resource stakeAccount =>
      obtain ⟨-, -, r, rfl⟩ := buildUnsignedTx_undelegate_eq_ok h
      rfl
  | vote base validator =>
      rw [buildUnsignedTx_vote_eq_ok h]
      rfl
  | claimDelegate base validator index stakeAccount =>
      rw [← Except.ok.inj h]
      rfl
  | claimRewards base validator =>
      rw [← Except.ok.inj h]
      rfl
  | redelegate base isMaxAmount fromValidator toValidator => cases h

/-- What is built for the address of a key is good for the signature of that key. -/
theorem signedFor_of_built (hlaw : codec.Lawful create utils) {key address : String}
    (haddress : (create (some key)).defaultAddress = some address) {contract : TronContract}
    (howner : contract.ownerAddress = address) {unsigned : JsValue}
    (hbuilt : (create none).transactionBuilder contract = .ok unsigned) :
    ∃ txId, stringField unsigned "txID" = some txId ∧
      SignedFor utils unsigned (codec.signatureOf key txId) txId ∧
      (create (some key)).sign unsigned =
        .ok (unsigned.set "signature" (.array [.string (codec.signatureOf key txId)])) := by
  subst howner
  obtain ⟨hex, hne, hpack, hhex, hid, hnew, hextract⟩ := hlaw.built hbuilt
  obtain ⟨-, -, hhexAddress⟩ := hlaw.address haddress
  obtain ⟨hsignature, recovered, hrecovered, hsame⟩ := hlaw.recovers haddress hpack
  have hbound : utils.txCheck unsigned = .ok true := hlaw.txCheck.mpr ⟨hex, hpack, hid⟩
  exact ⟨utils.sha256 hex, hid,
    ⟨hsignature, ⟨hex, hhex, hne, rfl⟩, hid, hbound,
      ⟨_, recovered, hextract, hhexAddress, hrecovered, hsame⟩⟩,
    hlaw.signs haddress hextract hbound hnew hid⟩

/-- A string field is the field. -/
theorem get_of_stringField {value : JsValue} {key s : String}
    (h : stringField value key = some s) : value.get key = some (.string s) := by
  unfold stringField at h
  split at h
  · next hget => rw [hget, Option.some.inj h]
  · cases h

/-- Direct signing with a key that has an address. -/
theorem sign_eq {args : BaseSignArgs} {privateKeyText validated address : String}
    (hkey : privateKey privateKeyText = .ok validated)
    (haddress : (create (some (String.ofList (validated.toList.drop 2)))).defaultAddress =
      some address) (hne : address ≠ "") :
    sign create { args with privateKey := privateKeyText } = (do
      let tronWeb := create (some (String.ofList (validated.toList.drop 2)))
      let contract ← buildUnsignedTx args.transaction address
      let unsigned ← tronWeb.transactionBuilder contract
      let signed ← tronWeb.sign unsigned
      stringify signed) := by
  have hkey_ne : privateKeyText ≠ "" := by
    rintro rfl
    cases hkey
  have hread : privateKey privateKeyText = pure validated := hkey
  simp only [sign, if_neg hkey_ne, hread, pure_bind, haddress, Option.getD_some, if_neg hne]

/-- `prehash` for an account that is valid. -/
theorem prehash_eq {args : BaseSignArgs} {address : String}
    (hnamed : args.transaction.account = some address) (hne : address ≠ "")
    (hvalid : utils.isAddress address = true) :
    prehash create utils args = (do
      let contract ← buildUnsignedTx args.transaction address
      let unsigned ← (create none).transactionBuilder contract
      return { serializedTransaction := unsigned.get "txID"
               signArgs := { args with rawTx := some unsigned } }) := by
  have hassert : assertValidAddress utils.isAddress address = pure () := if_pos hvalid
  simp only [prehash, hnamed, Option.getD_some, if_neg hne, hassert, pure_bind]

/-- The external path of an account that is filled in. -/
theorem prehashAndCompile_eq {args : BaseSignArgs} {key address : String} (hne : address ≠ "")
    (hvalid : utils.isAddress address = true) :
    prehashAndCompile create utils codec (args.withAccount address) key = (do
      let contract ← buildUnsignedTx args.transaction address
      let unsigned ← (create none).transactionBuilder contract
      let signature ← signExternally codec key (unsigned.get "txID")
      checkCompile utils unsigned signature
      stringify (unsigned.set "signature" (.array [.string signature]))) := by
  have hbuild : buildUnsignedTx (args.withAccount address).transaction address =
      buildUnsignedTx args.transaction address := buildUnsignedTx_withAccount _ _ _
  have hnamed : (args.withAccount address).transaction.account = some address :=
    Transaction.account_withAccount _ _
  simp only [prehashAndCompile, prehash_eq hnamed hne hvalid, hbuild, pure_bind, bind_assoc,
    compile]

/-- **The paths agree.** For a key TronWeb derives an address from, direct signing returns or throws
what the external path does with that address as the account, whatever account the transaction
names. -/
theorem sign_eq_prehashAndCompile (hlaw : codec.Lawful create utils) {args : BaseSignArgs}
    {privateKeyText validated address : String} (hkey : privateKey privateKeyText = .ok validated)
    (haddress : (create (some (String.ofList (validated.toList.drop 2)))).defaultAddress =
      some address) :
    sign create { args with privateKey := privateKeyText } =
      prehashAndCompile create utils codec (args.withAccount address)
        (String.ofList (validated.toList.drop 2)) := by
  obtain ⟨hne, hvalid, -⟩ := hlaw.address haddress
  rw [sign_eq hkey haddress hne, prehashAndCompile_eq hne hvalid]
  cases hcontract : buildUnsignedTx args.transaction address with
  | error e => rfl
  | ok contract =>
      show ((create (some (String.ofList (validated.toList.drop 2)))).transactionBuilder
        contract >>= _) = (create none).transactionBuilder contract >>= _
      rw [hlaw.builder]
      cases hbuilt : (create none).transactionBuilder contract with
      | error e => rfl
      | ok unsigned =>
          obtain ⟨txId, hid, hsigned, hsign⟩ := signedFor_of_built hlaw haddress
            (ownerAddress_of_buildUnsignedTx hcontract) hbuilt
          have hcheck : checkCompile utils unsigned _ = pure () :=
            checkCompile_eq_ok.mpr ⟨txId, hsigned⟩
          show ((create (some (String.ofList (validated.toList.drop 2)))).sign unsigned >>=
            stringify) = _
          show _ = signExternally codec _ (unsigned.get "txID") >>= _
          rw [hsign, get_of_stringField hid]
          show _ = checkCompile utils unsigned _ >>= _
          rw [hcheck]
          rfl

end agree

/-! ### A freeze -/

/-- The id of a freeze of one TRX for bandwidth. -/
def freezeId : String := "789c4e184f355f00f44419eded4c5e0de59bdfa517f839c9e5874d4d7523b864"

/-- Its packed raw data. -/
def freezeHex : String :=
  "0a020a1b2208112233445566778840e0bc9ad68d375a57083612530a34747970652e676f6f676c65617069732e"
    ++ "636f6d2f70726f746f636f6c2e467265657a6542616c616e63655632436f6e7472616374121b0a15417e5f45"
    ++ "52091a69125d5dfcb7b8c2659029395bdf10c0843d7080e896d68d37"

/-- The owner's private key. -/
def freezeKey : String := "0000000000000000000000000000000000000000000000000000000000000001"

/-- The owner's address. -/
def freezeOwner : String := "TMVQGm1qAQYVdetCeGRRkTWYYrLXuHK2HC"

/-- The owner's address in hex. -/
def freezeOwnerHex : String := "417e5f4552091a69125d5dfcb7b8c2659029395bdf"

/-- The owner's signature of the id. -/
def freezeSignature : String :=
  "5de49a155795320bcf9580803148f9e951dfe558c0e6931a39f1895f8b8862591de5ff1d2105a4219b035f0500f19f"
    ++ "df28eb111d6aee6b602e3daf78b0e9ea721B"

/-- A freeze as TronWeb builds it, of an amount in SUN. -/
def freezeTransaction (amount : ℤ) : JsValue :=
  .object [
    ("visible", .bool false),
    ("txID", .string freezeId),
    ("raw_data_hex", .string freezeHex),
    ("raw_data", .object [
      ("contract", .array [.object [
        ("parameter", .object [
          ("value", .object [
            ("resource", .string "BANDWIDTH"),
            ("frozen_balance", .number (.number (.int amount))),
            ("owner_address", .string freezeOwnerHex)]),
          ("type_url", .string "type.googleapis.com/protocol.FreezeBalanceV2Contract")]),
        ("type", .string "FreezeBalanceV2Contract")]]),
      ("ref_block_bytes", .string "0a1b"),
      ("ref_block_hash", .string "1122334455667788"),
      ("expiration", .number (.number (.int 1893456060000))),
      ("timestamp", .number (.number (.int 1893456000000)))])]

/-- The amount a transaction freezes. -/
def frozenBalance (tx : JsValue) : Option Number := do
  let rawData ← tx.get "raw_data"
  let contract ← rawData.get "contract"
  let entry ← firstItem contract
  let parameter ← entry.get "parameter"
  let value ← parameter.get "value"
  match ← value.get "frozen_balance" with
  | .number (.number amount) => some amount
  | _ => none

/-- The encodings of that freeze. -/
def freezeCodec : TronCodec where
  pack := fun tx => if frozenBalance tx = some (.int 1000000) then some freezeHex else none
  addressHex := fun _ => freezeOwnerHex
  signatureOf := fun _ txId => if txId = freezeId then freezeSignature else ""

/-- The static functions of TronWeb on that freeze. -/
def freezeUtils : TronUtils where
  isAddress := fun address => address = freezeOwner
  sha256 := fun hex => if hex = freezeHex then freezeId else "00"
  txCheck := fun tx =>
    .ok (frozenBalance tx = some (.int 1000000) && stringField tx "txID" = some freezeId)
  ecRecover := fun txId signature =>
    if txId = freezeId ∧ signature = freezeSignature then .ok freezeOwnerHex
    else .error (.foreign "invalid point")

/-- A client that builds that freeze, and signs with the owner's key. -/
def freezeTronWeb (key : Option String) : TronWeb where
  defaultAddress := if key = some freezeKey then some freezeOwner else none
  transactionBuilder := fun contract =>
    if contract = .freezeBalanceV2 (.int 1000000) .bandwidth freezeOwner then
      .ok (freezeTransaction 1000000)
    else .error (.foreign "no vector")
  sign := fun tx =>
    .ok (tx.set "signature" (.array [.string
      (freezeCodec.signatureOf freezeKey ((stringField tx "txID").getD ""))]))

/-- The encodings and the clients do what is relied on. -/
theorem freezeCodec_lawful : freezeCodec.Lawful freezeTronWeb freezeUtils where
  builder := fun _ => rfl
  built := by
    intro contract tx h
    simp only [freezeTronWeb] at h
    split at h
    · next hcontract =>
        obtain rfl := Except.ok.inj h
        subst hcontract
        have hbalance : frozenBalance (freezeTransaction 1000000) = some (.int 1000000) := rfl
        have hpack : freezeCodec.pack (freezeTransaction 1000000) = some freezeHex := by
          simp [freezeCodec, hbalance]
        have hid : freezeUtils.sha256 freezeHex = freezeId := by simp [freezeUtils]
        exact ⟨freezeHex, by decide +kernel, hpack, rfl, by rw [hid]; rfl, rfl, rfl⟩
    · cases h
  txCheck := by
    intro tx
    simp only [freezeUtils, freezeCodec, Except.ok.injEq, Bool.and_eq_true, decide_eq_true_eq]
    constructor
    · rintro ⟨hbalance, hid⟩
      exact ⟨freezeHex, if_pos hbalance, by rw [if_pos rfl, hid]⟩
    · rintro ⟨hex, hpack, hid⟩
      split at hpack
      · next hbalance =>
          obtain rfl := Option.some.inj hpack
          exact ⟨hbalance, by rw [hid, if_pos rfl]⟩
      · cases hpack
  address := by
    intro key address h
    simp only [freezeTronWeb] at h
    split at h
    · obtain rfl := Option.some.inj h
      exact ⟨by decide, by simp [freezeUtils], by decide⟩
    · cases h
  signs := by
    intro key address tx txId h _ _ _ hid
    simp only [freezeTronWeb, hid, Option.getD_some]
    rfl
  recovers := by
    intro key address tx hex _ hpack
    simp only [freezeCodec] at hpack
    split at hpack
    · obtain rfl := Option.some.inj hpack
      have hid : freezeUtils.sha256 freezeHex = freezeId := by simp [freezeUtils]
      have hsignature : freezeCodec.signatureOf key freezeId = freezeSignature := by
        simp [freezeCodec]
      rw [hid, hsignature]
      exact ⟨by decide +kernel, freezeOwnerHex, by simp [freezeUtils], rfl⟩
    · cases hpack

/-- A freeze of one TRX in the name of some account. -/
def freezeArgs (account : Option String) (total : ℤ) : BaseSignArgs :=
  { transaction := .delegate
      { chain := { id := "tron-mainnet", chainId := none }, amount := 1000000, account }
      false none (some "BANDWIDTH")
    fee := .resourceFee 350 0 total
    nonce := .int 0 }

/-- The freeze is signed directly as it is externally, though it names another account. -/
theorem sign_freeze :
    sign freezeTronWeb
        { freezeArgs (some "TJRabPrwbZy45sbavfcjinPJC18kjpRTv8") 0 with
          privateKey := freezeKey } =
      prehashAndCompile freezeTronWeb freezeUtils freezeCodec (freezeArgs (some freezeOwner) 0)
        freezeKey ∧
    ∃ text, prehashAndCompile freezeTronWeb freezeUtils freezeCodec
      (freezeArgs (some freezeOwner) 0) freezeKey = .ok text := by
  have hkey : privateKey freezeKey = .ok (String.ofList ('0' :: 'x' :: freezeKey.toList)) := by
    decide +kernel
  have hdrop : String.ofList ((String.ofList ('0' :: 'x' :: freezeKey.toList)).toList.drop 2) =
      freezeKey := by
    decide +kernel
  have haddress : (freezeTronWeb (some (String.ofList
      ((String.ofList ('0' :: 'x' :: freezeKey.toList)).toList.drop 2)))).defaultAddress =
        some freezeOwner := by
    rw [hdrop]
    simp [freezeTronWeb]
  have hagree : sign freezeTronWeb
      { freezeArgs (some "TJRabPrwbZy45sbavfcjinPJC18kjpRTv8") 0 with privateKey := freezeKey } =
        _ := sign_eq_prehashAndCompile freezeCodec_lawful hkey haddress
  rw [hdrop] at hagree
  exact ⟨hagree, exists_eq_ok (by decide +kernel)⟩

/-! ## What compile returns was built -/

section tamper

variable {create : Option String → TronWeb} {utils : TronUtils} {codec : TronCodec}

/-- A signature that is good for transactions with one id at most. -/
def OnlyFor (utils : TronUtils) (signature txId : String) : Prop :=
  ∀ rawTx txId', SignedFor utils rawTx signature txId' → txId' = txId

/-- **What compile returns is what was built.** With a signature that is good only for the id
`prehash` returned, whatever arguments `compile` accepts, the transaction it attaches the signature
to packs to the bytes TronWeb built for the contract of the arguments of `prehash`, unless these two
packings are different texts with one hash. -/
theorem compile_packs_as_built (hlaw : codec.Lawful create utils) {args : BaseSignArgs}
    {result : PrehashResult} {signature txId : String}
    (hprehash : prehash create utils args = .ok result)
    (hid : result.serializedTransaction = some (.string txId))
    (honly : OnlyFor utils signature txId) {changed : TronSignArgs} {text : Document}
    (hcompile : compile utils { signArgs := changed, signature } = .ok text) :
    ∃ owner contract unsigned rawTx, args.transaction.account = some owner ∧
      buildUnsignedTx args.transaction owner = .ok contract ∧
      (create none).transactionBuilder contract = .ok unsigned ∧ changed.rawTx = some rawTx ∧
      stringify (rawTx.set "signature" (.array [.string signature])) = .ok text ∧
      (codec.pack rawTx = codec.pack unsigned ∨
        ∃ hex hex', codec.pack rawTx = some hex ∧ codec.pack unsigned = some hex' ∧ hex ≠ hex' ∧
          utils.sha256 hex = utils.sha256 hex') := by
  unfold prehash at hprehash
  obtain ⟨hnamed, hprehash⟩ := guard_eq_ok.mp hprehash
  obtain ⟨_, -, hprehash⟩ := bind_eq_ok.mp hprehash
  obtain ⟨contract, hcontract, hprehash⟩ := bind_eq_ok.mp hprehash
  obtain ⟨unsigned, hunsigned, hprehash⟩ := bind_eq_ok.mp hprehash
  obtain rfl := Except.ok.inj hprehash
  obtain ⟨rawTx, txId', hraw, hsigned, htext⟩ := compile_eq_ok.mp hcompile
  obtain rfl := honly rawTx txId' hsigned
  refine ⟨_, contract, unsigned, rawTx, eq_some_getD hnamed, hcontract, hunsigned, hraw, htext, ?_⟩
  -- both transactions pack to a text with that hash
  obtain ⟨hex, -, hpack, -, hbuiltId, -⟩ := hlaw.built hunsigned
  obtain ⟨hex', hpack', hchecked⟩ := hlaw.txCheck.mp hsigned.bound
  have hbuilt : utils.sha256 hex = txId' := by
    have hget : some (Json.string (utils.sha256 hex)) = some (.string txId') :=
      (get_of_stringField hbuiltId).symm.trans hid
    exact Json.string.inj (Option.some.inj hget)
  have hsame : utils.sha256 hex' = utils.sha256 hex := by
    rw [hbuilt]
    exact Option.some.inj (hchecked.symm.trans hsigned.idField)
  by_cases heq : hex' = hex
  · left
    rw [hpack, hpack', heq]
  · right
    exact ⟨hex', hex, hpack', hpack, heq, hsame⟩

end tamper

/-- The signature of the freeze is good for its id only. -/
theorem onlyFor_freeze : OnlyFor freezeUtils freezeSignature freezeId := by
  intro rawTx txId h
  obtain ⟨owner, recovered, -, -, hrecovered, -⟩ := h.recovers
  by_contra hid
  simp [freezeUtils, hid] at hrecovered

/-- With another fee and another transaction in the arguments `compile` still returns the freeze. -/
theorem compile_freeze_changed :
    ∃ text owner contract unsigned rawTx,
      (freezeArgs (some freezeOwner) 0).transaction.account = some owner ∧
      buildUnsignedTx (freezeArgs (some freezeOwner) 0).transaction owner = .ok contract ∧
      (freezeTronWeb none).transactionBuilder contract = .ok unsigned ∧
      some (freezeTransaction 1000000) = some rawTx ∧
      stringify (rawTx.set "signature" (.array [.string freezeSignature])) = .ok text ∧
      (freezeCodec.pack rawTx = freezeCodec.pack unsigned ∨
        ∃ hex hex', freezeCodec.pack rawTx = some hex ∧ freezeCodec.pack unsigned = some hex' ∧
          hex ≠ hex' ∧ freezeUtils.sha256 hex = freezeUtils.sha256 hex') := by
  have hprehash : prehash freezeTronWeb freezeUtils (freezeArgs (some freezeOwner) 0) =
      .ok { serializedTransaction := some (.string freezeId)
            signArgs :=
              { freezeArgs (some freezeOwner) 0 with
                rawTx := some (freezeTransaction 1000000) } } := by
    have hcontract : buildUnsignedTx (freezeArgs (some freezeOwner) 0).transaction freezeOwner =
        pure (.freezeBalanceV2 (.int 1000000) .bandwidth freezeOwner) := by decide +kernel
    have hbuilt : (freezeTronWeb none).transactionBuilder
        (.freezeBalanceV2 (.int 1000000) .bandwidth freezeOwner) =
          pure (freezeTransaction 1000000) := by
      simp only [freezeTronWeb, if_true]
      rfl
    have hvalid : freezeUtils.isAddress freezeOwner = true := by simp [freezeUtils]
    rw [prehash_eq rfl (by decide) hvalid, hcontract, pure_bind, hbuilt, pure_bind]
    rfl
  obtain ⟨text, hcompile⟩ : ∃ text, compile freezeUtils
      { signArgs := { freezeArgs none 99 with rawTx := some (freezeTransaction 1000000) }
        signature := freezeSignature } = .ok text := exists_eq_ok (by decide +kernel)
  exact ⟨text, compile_packs_as_built freezeCodec_lawful hprehash rfl onlyFor_freeze hcompile⟩

end GuardianStake.Tron
