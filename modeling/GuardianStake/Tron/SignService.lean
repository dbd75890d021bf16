import GuardianStake.Sdk.JsonBig
import GuardianStake.Sdk.Signing
import GuardianStake.Tron.TxBuilder

/-!
# Signing on Tron

`services/sign-service.ts`: direct signing, and the external path of `prehash` and `compile`. TronWeb
builds and signs the transactions; it is a parameter, and `TronWeb.Documented` is what is relied
on.

* `Signed` — a text either path returns for a transaction.
* `Signed.built` — **what is in a signed text**: the numbers of the transaction TronWeb built, as
  they are written.
* `Signed.forall_literal` — the literals of a signed text, in terms of the amounts asked for.
-/

namespace GuardianStake.Tron

open Sdk Found

/-! ## TronWeb -/

/-- A client of TronWeb, as far as it is used: its address, the calls of its transaction builder and
its signature. -/
structure TronWeb where
  defaultAddress : Option String
  transactionBuilder : TronContract → Result JsValue
  sign : JsValue → Result JsValue

/-- The functions of TronWeb that need no client; `sha256` is from hex to hex. -/
structure TronUtils where
  isAddress : String → Bool
  sha256 : String → String
  txCheck : JsValue → Result Bool
  ecRecover : (txId signature : String) → Result String

/-! ## The code -/

/-- Source: `entity/sign-types.ts`, `SigningWithPrivateKey`. -/
structure SigningWithPrivateKey extends BaseSignArgs where
  privateKey : String

/-- Source: `tx/tron-types.ts`, `TronSignArgs`. -/
structure TronSignArgs extends BaseSignArgs where
  rawTx : Option JsValue

/-- Source: `entity/sign-types.ts`, `PrehashResult`; `serializedTransaction` is the field `txID`, if
the transaction has it. -/
structure PrehashResult where
  serializedTransaction : Option JsValue
  signArgs : TronSignArgs

/-- Source: `entity/sign-types.ts`, `CompileArgs`. -/
structure CompileArgs where
  signArgs : TronSignArgs
  signature : String

/-- A field that is a string. -/
def stringField (value : JsValue) (key : String) : Option String :=
  match value.get key with
  | some (.string s) => some s
  | _ => none

/-- The first entry of an array. -/
def firstItem : JsValue → Option JsValue
  | .array (item :: _) => some item
  | _ => none

/-- Source: `services/sign-service.ts`, `extractOwnerAddressHex`. -/
def extractOwnerAddressHex (rawTx : JsValue) : Option String := do
  let rawData ← rawTx.get "raw_data"
  let contract ← rawData.get "contract"
  let entry ← firstItem contract
  let parameter ← entry.get "parameter"
  let value ← parameter.get "value"
  stringField value "owner_address"

/-- `s.toLowerCase()`, of hex digits. -/
def toLowerCase (s : String) : List Char := s.toList.map Char.toLower

section code

variable (create : Option String → TronWeb) (utils : TronUtils)

/-- Source: `services/sign-service.ts`, `sign`. -/
def sign (args : SigningWithPrivateKey) : Result Document := do
  if args.privateKey = "" then
    throw (.signing .invalidSigningArgs "Tron sign() requires a privateKey.")
  let validated ← privateKey args.privateKey
  let tronPrivateKey := String.ofList (validated.toList.drop 2)
  let tronWeb := create (some tronPrivateKey)
  let owner := tronWeb.defaultAddress.getD ""
  if owner = "" then
    throw (.signing .invalidSigningArgs
      "Could not derive an owner address from the provided private key.")
  let contract ← buildUnsignedTx args.transaction owner
  let unsigned ← tronWeb.transactionBuilder contract
  let signed ← tronWeb.sign unsigned
  stringify signed

/-- Source: `services/sign-service.ts`, `prehash`. -/
def prehash (args : BaseSignArgs) : Result PrehashResult := do
  let tronWeb := create none
  let owner := args.transaction.account.getD ""
  if owner = "" then
    throw (.signing .invalidSigningArgs
      "Tron prehash() requires transaction.account (the owner address).")
  assertValidAddress utils.isAddress owner
  let contract ← buildUnsignedTx args.transaction owner
  let unsigned ← tronWeb.transactionBuilder contract
  let signArgs : TronSignArgs := { args with rawTx := some unsigned }
  return { serializedTransaction := unsigned.get "txID", signArgs }

/-- The checks `compile` makes of the raw transaction and the signature. -/
def checkCompile (rawTx : JsValue) (signature : String) : Result Unit := do
  let txId := stringField rawTx "txID"
  let rawDataHex := (stringField rawTx "raw_data_hex").getD ""
  if signature = "" then
    throw (.signing .invalidSigningArgs "compile() requires a non-empty signature.")
  if rawDataHex = "" then
    throw (.signing .invalidSigningArgs
      "compile() requires signArgs._rawTx.raw_data_hex from prehash().")
  let recomputedTxId := utils.sha256 rawDataHex
  if some recomputedTxId ≠ txId then
    throw (.signing .signatureMismatch
      ("compile() detected that signArgs._rawTx does not match its own txID "
        ++ "(SHA256(raw_data_hex) != txID). This means _rawTx was mutated or swapped after "
        ++ "prehash()."))
  let rawDataBoundToHex :=
    match utils.txCheck rawTx with
    | .ok bound => bound
    | .error _ => false
  if !rawDataBoundToHex then
    throw (.signing .signatureMismatch
      ("compile() detected that signArgs._rawTx.raw_data does not match raw_data_hex "
        ++ "(structured raw_data was mutated after prehash() while hex/txID were left intact)."))
  let ownerAddressHex := (extractOwnerAddressHex rawTx).getD ""
  if ownerAddressHex = "" then
    throw (.signing .invalidSigningArgs
      ("compile() could not find raw_data.contract[0].parameter.value.owner_address on "
        ++ "signArgs._rawTx."))
  match utils.ecRecover recomputedTxId signature with
  | .error _ =>
      throw (.signing .signatureMismatch
        "compile() could not recover a secp256k1 signer from the supplied signature over txID.")
  | .ok recoveredAddressHex =>
      if toLowerCase recoveredAddressHex ≠ toLowerCase ownerAddressHex then
        throw (.signing .signatureMismatch
          ("compile() produced a transaction whose signature does not recover to the "
            ++ "transaction's owner_address. This can mean signArgs was mutated after prehash(), "
            ++ "or the supplied signature belongs to a different signer/transaction."))

/-- Source: `services/sign-service.ts`, `compile`. -/
def compile (args : CompileArgs) : Result Document := do
  match args.signArgs.rawTx with
  | none =>
      throw (.signing .invalidSigningArgs "compile() requires signArgs._rawTx from prehash().")
  | some rawTx =>
      checkCompile utils rawTx args.signature
      let signed := rawTx.set "signature" (.array [.string args.signature])
      stringify signed

/-- A text signed for a transaction: by `sign`, or by `compile` from what `prehash` returned. -/
inductive Signed (tx : Transaction) (text : Document) : Prop
  | sign {args : SigningWithPrivateKey} (htx : args.transaction = tx)
      (hsign : sign create args = .ok text)
  | compile {args : BaseSignArgs} {result : PrehashResult} {signature : String}
      (htx : args.transaction = tx) (hprehash : prehash create utils args = .ok result)
      (hcompile : compile utils { signArgs := result.signArgs, signature } = .ok text)

end code

/-! ## What is relied on -/

/-- The numbers a contract is asked for with. -/
def TronContract.amounts : TronContract → List Number
  | .freezeBalanceV2 amount _ _ | .unfreezeBalanceV2 amount _ _ => [amount]
  | .vote votes _ => votes.map Prod.snd
  | .withdrawExpireUnfreeze _ | .withdrawBlockRewards _ => []

/-- A number that is written with its digits. -/
def IsPlain (x : Number) : Prop := ∃ v, x.literal = some (.integer v)

instance : DecidablePred IsPlain := fun x =>
  match h : x.literal with
  | some (.integer v) => isTrue ⟨v, h⟩
  | some (.real _ _) => isFalse (by simp [IsPlain, h])
  | none => isFalse (by simp [IsPlain, h])

/-- What is relied on of TronWeb. A transaction it builds is not signed yet, and its objects have
ordinary keys. Its numbers are the amounts of the contract that are written with their digits, each
of them there, and numbers of at most 15 digits: the milliseconds of `timestamp` and `expiration`, a
fee limit, and the one digit that it reads of a count of votes with an exponent. Signing adds
signatures. -/
structure TronWeb.Documented (tronWeb : TronWeb) : Prop where
  unsigned : ∀ contract tx, tronWeb.transactionBuilder contract = .ok tx →
    tx.get "signature" = none
  keys : ∀ contract tx, tronWeb.transactionBuilder contract = .ok tx → OrdinaryKeys tx
  amounts : ∀ contract tx, tronWeb.transactionBuilder contract = .ok tx →
    ∀ x ∈ contract.amounts, IsPlain x → .number x ∈ tx.numbers
  others : ∀ contract tx, tronWeb.transactionBuilder contract = .ok tx →
    ∀ n ∈ tx.numbers, (∃ x ∈ contract.amounts, IsPlain x ∧ n = .number x) ∨
      ∃ v : ℤ, 0 ≤ v ∧ v < 10 ^ 15 ∧ n = .number (.int v)
  sign : ∀ tx signed, tx.get "signature" = none → tronWeb.sign tx = .ok signed →
    ∃ signatures : List String, signed = tx.set "signature" (.array (signatures.map .string))

/-! ## What is in a signed text -/

section signed

variable {create : Option String → TronWeb} {utils : TronUtils} {tx : Transaction}
  {text : Document}

/-- Strings are not numbers. -/
theorem numbers_signatures (signatures : List String) :
    (Json.array (signatures.map .string) : JsValue).numbers = [] := by
  rw [Json.numbers_array, List.flatMap_eq_nil_iff]
  intro item hitem
  obtain ⟨s, -, rfl⟩ := List.mem_map.mp hitem
  rfl

/-- Nor objects. -/
theorem objectKeys_signatures (signatures : List String) :
    (Json.array (signatures.map .string) : JsValue).objectKeys = [] := by
  rw [Json.objectKeys_array, List.flatMap_eq_nil_iff]
  intro item hitem
  obtain ⟨s, -, rfl⟩ := List.mem_map.mp hitem
  rfl

/-- Signatures are added to a transaction that TronWeb has built. -/
theorem addSignatures {tronWeb : TronWeb} (hdoc : tronWeb.Documented) {contract : TronContract}
    {unsigned : JsValue} (h : tronWeb.transactionBuilder contract = .ok unsigned)
    (signatures : List String) :
    (unsigned.set "signature" (.array (signatures.map .string))).numbers = unsigned.numbers ∧
      OrdinaryKeys (unsigned.set "signature" (.array (signatures.map .string))) := by
  have hnew := hdoc.unsigned contract unsigned h
  exact ⟨Json.numbers_set hnew (numbers_signatures signatures),
    ordinaryKeys_set hnew (objectKeys_signatures signatures) (by decide)
      (hdoc.keys contract unsigned h)⟩

/-- **What is in a signed text**: the numbers of the transaction TronWeb built for an accepted
contract, as they are written. -/
theorem Signed.built (h : Signed create utils tx text)
    (hdoc : ∀ key, (create key).Documented) :
    ∃ key owner contract unsigned signed, buildUnsignedTx tx owner = .ok contract ∧
      (create key).transactionBuilder contract = .ok unsigned ∧ stringify signed = .ok text ∧
      signed.numbers = unsigned.numbers ∧ OrdinaryKeys signed := by
  cases h with
  | @sign args htx hsign =>
      subst htx
      unfold Tron.sign at hsign
      obtain ⟨-, hsign⟩ := guard_eq_ok.mp hsign
      obtain ⟨validated, -, hsign⟩ := bind_eq_ok.mp hsign
      obtain ⟨-, hsign⟩ := guard_eq_ok.mp hsign
      obtain ⟨contract, hcontract, hsign⟩ := bind_eq_ok.mp hsign
      obtain ⟨unsigned, hunsigned, hsign⟩ := bind_eq_ok.mp hsign
      obtain ⟨signed, hsigned, hsign⟩ := bind_eq_ok.mp hsign
      refine ⟨_, _, contract, unsigned, signed, hcontract, hunsigned, hsign, ?_⟩
      have hnew := (hdoc _).unsigned contract unsigned hunsigned
      obtain ⟨signatures, rfl⟩ := (hdoc _).sign unsigned signed hnew hsigned
      exact addSignatures (hdoc _) hunsigned signatures
  | @compile args result signature htx hprehash hcompile =>
      subst htx
      unfold prehash at hprehash
      obtain ⟨-, hprehash⟩ := guard_eq_ok.mp hprehash
      obtain ⟨_, -, hprehash⟩ := bind_eq_ok.mp hprehash
      obtain ⟨contract, hcontract, hprehash⟩ := bind_eq_ok.mp hprehash
      obtain ⟨unsigned, hunsigned, hprehash⟩ := bind_eq_ok.mp hprehash
      obtain rfl := Except.ok.inj hprehash
      unfold Tron.compile at hcompile
      obtain ⟨_, -, hcompile⟩ := bind_eq_ok.mp hcompile
      exact ⟨_, _, contract, unsigned, _, hcontract, hunsigned, hcompile,
        addSignatures (hdoc _) hunsigned [signature]⟩

/-- **The literals of a signed text**: each is written for a number and can be read, and all are
short iff those of the amounts that are written with their digits are. -/
theorem Signed.forall_literal (h : Signed create utils tx text)
    (hdoc : ∀ key, (create key).Documented) :
    OrdinaryKeys text ∧
    (∀ literal ∈ text.numbers, literal.Readable ∧ ∃ x : Number, x.literal = some literal) ∧
    ∃ owner contract, buildUnsignedTx tx owner = .ok contract ∧
      ((∀ literal ∈ text.numbers, literal.isLong = false) ↔
        ∀ x ∈ contract.amounts, ∀ v, x.literal = some (.integer v) → literalLength v ≤ 15) := by
  obtain ⟨key, owner, contract, unsigned, signed, hcontract, hunsigned, htext, hnumbers, hkeys⟩ :=
    h.built hdoc
  have hmem : ∀ literal, literal ∈ text.numbers ↔
      ∃ x : Number, .number x ∈ unsigned.numbers ∧ x.literal = some literal := by
    intro literal
    rw [mem_numbers_stringify htext, hnumbers]
  -- the numbers of the transaction are written with their digits
  have hplain : ∀ x : Number, .number x ∈ unsigned.numbers →
      ∃ v, x.literal = some (.integer v) ∧ (literalLength v ≤ 15 ∨ x ∈ contract.amounts) := by
    intro x hx
    rcases (hdoc key).others contract unsigned hunsigned _ hx with
      ⟨y, hy, ⟨v, hv⟩, heq⟩ | ⟨v, hv, hlt, heq⟩
    · obtain rfl := JsNumber.number.inj heq
      exact ⟨v, hv, Or.inr hy⟩
    · obtain rfl := JsNumber.number.inj heq
      exact ⟨v, literal_of_lt (by omega), Or.inl ((literalLength_le_iff hv).mpr hlt)⟩
  refine ⟨ordinaryKeys_stringify htext hkeys, ?_, owner, contract, hcontract, ?_, ?_⟩
  · intro literal hliteral
    obtain ⟨x, hx, hwritten⟩ := (hmem literal).mp hliteral
    obtain ⟨v, hv, -⟩ := hplain x hx
    obtain rfl := Option.some.inj (hv.symm.trans hwritten)
    exact ⟨readable_of_literal hv, x, hv⟩
  · intro hall x hx v hv
    have hin := (hdoc key).amounts contract unsigned hunsigned x hx ⟨v, hv⟩
    exact not_lt.mp (of_decide_eq_false (hall _ ((hmem _).mpr ⟨x, hin, hv⟩)))
  · intro hall literal hliteral
    obtain ⟨x, hx, hwritten⟩ := (hmem literal).mp hliteral
    obtain ⟨v, hv, hshort⟩ := hplain x hx
    obtain rfl := Option.some.inj (hv.symm.trans hwritten)
    exact decide_eq_false (not_lt.mpr (hshort.elim id fun hin => hall x hin v hv))

end signed

end GuardianStake.Tron
