import GuardianStake.Sdk.Js
import GuardianStake.Sdk.Transaction

/-!
# Signing arguments and private keys

The arguments the sign services share, and `entity/private-key.ts`.
-/

namespace GuardianStake.Sdk

/-- Source: `entity/sign-types.ts`, `BaseSignArgs`. -/
structure BaseSignArgs where
  transaction : Transaction
  fee : Fee
  nonce : Number
  deriving DecidableEq, Repr

/-- The arguments with the account of the transaction filled in. -/
def BaseSignArgs.withAccount (args : BaseSignArgs) (account : String) : BaseSignArgs :=
  { args with transaction := args.transaction.withAccount account }

/-- Source: `entity/private-key.ts`, `SECP256K1_ORDER`. -/
def secp256k1Order : ℕ := 0xFFFFFFFFFFFFFFFFFFFFFFFFFFFFFFFEBAAEDCE6AF48A03BBFD25E8CD0364141

/-- The characters of a string after a `0x` or `0X`. -/
def stripHexPrefix (value : String) : List Char :=
  match value.toList with
  | '0' :: 'x' :: cs => cs
  | '0' :: 'X' :: cs => cs
  | cs => cs

/-- Source: `entity/private-key.ts`, `privateKey`. -/
def privateKey (value : String) : Result String :=
  let stripped := stripHexPrefix value
  match parseDigits 16 stripped with
  | none =>
      .error (.validation .invalidPrivateKey
        "Invalid secp256k1 private key: expected 32 bytes (64 hex characters)")
  | some keyValue =>
      if stripped.length ≠ 64 then
        .error (.validation .invalidPrivateKey
          "Invalid secp256k1 private key: expected 32 bytes (64 hex characters)")
      else if keyValue = 0 then
        .error (.validation .invalidPrivateKey
          "Invalid secp256k1 private key: key cannot be zero")
      else if secp256k1Order ≤ keyValue then
        .error (.validation .invalidPrivateKey
          "Invalid secp256k1 private key: value exceeds curve order")
      else .ok (String.ofList ('0' :: 'x' :: stripped.map Char.toLower))

end GuardianStake.Sdk
