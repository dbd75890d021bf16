import GuardianStake.Sdk.JsonBig

/-!
# Posting to the FullNode

`rpc/rpc-utils.ts` of the SDK and `broadcast` of `rpc/tron-rpc-client.ts`. A JSON text is the value
it stands for. Bodies of requests are recorded, so that what reaches the node can be told from what
a call returns.

* `broadcast_posted` — **what `broadcast` posts** is the signed text, read and written again.
* `broadcast_of_error` — a text that is not written again is not posted; `broadcast_of_longReal` —
  nor is one that is not read.
-/

namespace GuardianStake.Tron

open Sdk

/-! ## Requests -/

/-- What a request is rejected with: the three kinds of an `AxiosError`, or any other error. -/
inductive RequestError
  | response (status : ℤ) (statusText : String)
  | request
  | setup (message : String)
  | other (message : String)
  deriving DecidableEq, Repr

/-- Source: `rpc/rpc-utils.ts`, `handleAxiosError`. -/
def handleAxiosError : RequestError → Thrown
  | .response status statusText =>
      let displayStatusText := if statusText = "" then s!"HTTP {status} Error" else statusText
      .api s!"API Request Failed: {status} - {displayStatusText}"
  | .request =>
      .api ("Network Error: No response received. Please check your internet connection or the "
        ++ "server status.")
  | .setup _ => .api "Request Setup Error: failed to send the request"
  | .other errorMessage => .api s!"An unexpected error occurred: {errorMessage}"

/-- A POST request with a JSON body. -/
structure PostRequest where
  url : String
  body : Document

/-- A call that makes requests: the ones posted, and what it returns. -/
structure Exchange (α : Type) where
  posted : List PostRequest
  result : Result α

/-- The message of an error. -/
def messageOf : Thrown → String
  | .validation _ message => message
  | .signing _ message => message
  | .api message => message
  | .foreign message => message

/-- Source: `rpc/rpc-utils.ts`, `fetchOrError`, for a POST. The HTTP client serializes the data,
before anything is sent, and transforms the response; `send` is the node. -/
def fetchOrError {α β : Type} (send : PostRequest → Except RequestError α)
    (transformResponse : α → Result β) (url : String) (data : JsValue) : Exchange β :=
  match stringify data with
  | .error error =>
      { posted := [], result := .error (handleAxiosError (.other (messageOf error))) }
  | .ok body =>
      { posted := [{ url, body }]
        result :=
          match send { url, body } with
          | .error error => .error (handleAxiosError error)
          | .ok response =>
              match transformResponse response with
              | .error error => .error (handleAxiosError (.other (messageOf error)))
              | .ok data => .ok data }

/-! ## The broadcast -/

/-- Source: `rpc/tron-rpc-types.ts`, `TronBroadcastResponse`. -/
structure TronBroadcastResponse where
  result : Option Bool
  txid : Option String
  code : Option String
  message : Option String
  deriving DecidableEq, Repr

/-- The bytes of a string of hex pairs. -/
def hexBytes : List Char → Option (List ℕ)
  | [] => some []
  | [_] => none
  | a :: b :: rest => do
      let high ← digitValue 16 a
      let low ← digitValue 16 b
      let bytes ← hexBytes rest
      some ((16 * high + low) :: bytes)

section broadcast

variable (decodeUtf8 : List ℕ → String)

/-- Source: `rpc/tron-rpc-client.ts`, `decodeHexMessage`. -/
def decodeHexMessage (message : Option String) : Option String :=
  match message with
  | none => none
  | some message =>
      if message = "" then none
      else
        match hexBytes message.toList with
        | none => some message
        | some bytes =>
            let text := decodeUtf8 bytes
            if text = "" then none else some text

/-- `broadcast` from the response on. -/
def readBroadcastResponse (raw : TronBroadcastResponse) : Result String := do
  let txid := raw.txid.getD ""
  if raw.result ≠ some true ∧ txid = "" then
    let code := raw.code.getD "FAILED"
    let reason := ((decodeHexMessage decodeUtf8 raw.message).map fun reason => s!" — {reason}").getD ""
    throw (.api s!"Tron broadcast rejected: {code}{reason}")
  if txid = "" then throw (.api "Broadcast succeeded but no txid returned")
  return txid

/-- Source: `rpc/tron-rpc-client.ts`, `broadcast`; `none` is a string that is not JSON, `send` the
node with the reading of what it answers. -/
def broadcast (jsonBig : JsonBig)
    (send : PostRequest → Except RequestError TronBroadcastResponse) (rpcUrl : String)
    (signedTxJson : Option Document) : Exchange String :=
  match signedTxJson.map jsonBig.parse with
  | none | some (.error _) =>
      { posted := [], result := .error (.api "Invalid signed transaction JSON") }
  | some (.ok parsed) =>
      let exchange := fetchOrError send .ok s!"{rpcUrl}/wallet/broadcasttransaction" parsed
      { posted := exchange.posted
        result := exchange.result >>= readBroadcastResponse decodeUtf8 }

end broadcast

/-! ## What is posted -/

section posted

variable (decodeUtf8 : List ℕ → String) {jsonBig : JsonBig}
  (send : PostRequest → Except RequestError TronBroadcastResponse) (rpcUrl : String)
  {text body : Document} {parsed : JsValue}

/-- **What `broadcast` posts** is the signed text, read and written again. -/
theorem broadcast_posted (hparse : jsonBig.parse text = .ok parsed)
    (h : stringify parsed = .ok body) :
    (broadcast decodeUtf8 jsonBig send rpcUrl (some text)).posted =
      [{ url := s!"{rpcUrl}/wallet/broadcasttransaction", body }] := by
  simp only [broadcast, Option.map_some, hparse, fetchOrError, h]

/-- A text that is not written again is not posted. -/
theorem broadcast_of_error (hparse : jsonBig.parse text = .ok parsed) {message : String}
    (h : stringify parsed = .error (.foreign message)) :
    broadcast decodeUtf8 jsonBig send rpcUrl (some text) =
      { posted := [], result := .error (.api s!"An unexpected error occurred: {message}") } := by
  simp only [broadcast, Option.map_some, hparse, fetchOrError, h]
  rfl

/-- A text with a long literal that is no integer's is not read, and not posted. -/
theorem broadcast_of_longReal (hjson : jsonBig.Documented) {literalText : String} {x : Number}
    (hmem : .real literalText x ∈ text.numbers) (hlong : 15 < literalText.length) :
    broadcast decodeUtf8 jsonBig send rpcUrl (some text) =
      { posted := [], result := .error (.api "Invalid signed transaction JSON") } := by
  obtain ⟨error, herror⟩ := hjson.longReal hlong
  obtain ⟨error, hparse⟩ := hjson.parse_error hmem herror
  simp only [broadcast, Option.map_some, hparse]

end posted

end GuardianStake.Tron
