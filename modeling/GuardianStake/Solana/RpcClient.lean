import GuardianStake.Found.CountedLoop
import GuardianStake.Found.Pages
import GuardianStake.Solana.Types

/-!
# Reading accounts in chunks

`rpc/solana-rpc-client.ts`: `getMultipleAccounts` over the transport, which answers one request at
a time. The loops write into one array at an offset.

* `AnswersRequests base64Encoder send answers` — an RPC that answers every request it may be sent.
* `fillChunk_eq_ok` — the inner loop writes a chunk's answers at its offset.
* `getMultipleAccounts_chunks` — **chunking is transparent**: an answer for each address, in order,
  or an error where a chunk's answer has another length.
* `getMultipleAccounts_eq_map` — one state of the accounts is read positionally.
-/

namespace GuardianStake.Solana

open Sdk Found

/-! ## Errors -/

/-- Source: `entity/errors.ts`, `BroadcastErrorCode`. -/
inductive BroadcastErrorCode
  | blockhashExpired
  deriving DecidableEq, Repr

/-- What a call of the client throws: an `ApiError`, a `BroadcastError`, or any other error. -/
inductive RpcError
  | api (message : String)
  | broadcast (code : BroadcastErrorCode) (message : String)
  | other (message : String)
  deriving DecidableEq, Repr

/-- What `address(s)` throws, as an error of the client. -/
def RpcError.ofThrown : Thrown → RpcError
  | .api message => .api message
  | .validation _ message => .other message
  | .signing _ message => .other message
  | .foreign message => .other message

/-- Source: `rpc/solana-rpc-client.ts`, `isBlockhashExpiredMessage`. -/
def isBlockhashExpiredMessage (message : String) : Bool :=
  let m := message.toList.map Char.toLower
  "blockhash not found".toList <:+: m || "blockhashnotfound".toList <:+: m ||
    "block height exceeded".toList <:+: m

/-- Source: `rpc/solana-rpc-client.ts`, `mapRpcError`. -/
def mapRpcError (err : RpcError) (operation : String) : RpcError :=
  match err with
  | .api message => .api message
  | .broadcast code message => .broadcast code message
  | .other message =>
      if isBlockhashExpiredMessage message then
        .broadcast .blockhashExpired (s!"Solana {operation} failed: recent blockhash expired — " ++
          s!"re-sign to embed a fresh blockhash and rebroadcast. ({message})")
      else .api s!"Solana RPC {operation} failed: {message}"

/-- Source: `rpc/solana-rpc-client.ts`, `rpcCall`. -/
def rpcCall {α : Type} (operation : String) (fn : Except RpcError α) : Except RpcError α :=
  match fn with
  | .ok value => .ok value
  | .error err => .error (mapRpcError err operation)

/-! ## Accounts -/

/-- The `data` of an account: a text, or a text and its encoding. -/
inductive EncodedData
  | text (b64 : String)
  | pair (b64 encoding : String)
  deriving DecidableEq, Repr

/-- The base64 text of `decodeBase64Data`. -/
def EncodedData.b64 : EncodedData → String
  | .text b64 => b64
  | .pair b64 _ => b64

/-- An account in a response of the node. -/
structure EncodedAccount where
  lamports : ℕ
  data : EncodedData
  owner : String
  deriving DecidableEq, Repr

/-- Source: `rpc/solana-rpc-client.ts`, `GET_MULTIPLE_ACCOUNTS_MAX`. -/
def getMultipleAccountsMax : ℕ := 100

section code

variable (kit : SolanaKit) (base64Encoder : String → Except String (List UInt8))
  (send : ℕ → List String → Except String (List (Option EncodedAccount)))

/-- Source: `rpc/solana-rpc-client.ts`, `toAddress`. -/
def toAddress (value : String) : Except RpcError String :=
  (kit.address value).mapError RpcError.ofThrown

/-- Source: `rpc/solana-rpc-client.ts`, `decodeBase64Data`. -/
def decodeBase64Data (data : EncodedData) : Except RpcError (List UInt8) :=
  (base64Encoder data.b64).mapError RpcError.other

/-- The inner loop of `getMultipleAccounts`: the answers to a slice, from `offset` on. -/
def fillChunk (offset : ℕ) (slice : List String) (value : List (Option EncodedAccount))
    (out : List (Option SolanaAccountInfo)) : Except RpcError (List (Option SolanaAccountInfo)) :=
  forRange value.length (fun i out =>
    match value[i]? with
    | some (some account) => do
        let original := slice[i]?.getD ""
        let data ← decodeBase64Data base64Encoder account.data
        return out.set (offset + i) (some
          { address := original, lamports := account.lamports, data, owner := account.owner })
    | _ => .ok (out.set (offset + i) none)) out

/-- The error of `getMultipleAccounts` where the answers are not one for each address. -/
def lengthMismatch (value slice : ℕ) : RpcError :=
  .api (s!"Solana RPC getMultipleAccounts returned {value} accounts for a batch of {slice} " ++
    "requested addresses.")

/-- One iteration of the outer loop: the `n`-th request, and its answers. -/
def readChunk (addresses : List String) (n : ℕ) (out : List (Option SolanaAccountInfo)) :
    Except RpcError (List (Option SolanaAccountInfo)) := do
  let offset := n * getMultipleAccountsMax
  let slice := (addresses.drop offset).take getMultipleAccountsMax
  let addrs ← slice.mapM (toAddress kit)
  let value ← (send n addrs).mapError RpcError.other
  if value.length ≠ slice.length then throw (lengthMismatch value.length slice.length)
  fillChunk base64Encoder offset slice value out

/-- The number of iterations of `for (let offset = 0; offset < n; offset += 100)`. -/
def chunkCount (n : ℕ) : ℕ := (n + (getMultipleAccountsMax - 1)) / getMultipleAccountsMax

/-- Source: `rpc/solana-rpc-client.ts`, `getMultipleAccounts`; `send n` is the node's answer to the
`n`-th request. -/
def getMultipleAccounts (addresses : List String) :
    Except RpcError (List (Option SolanaAccountInfo)) :=
  rpcCall "getMultipleAccounts"
    (if addresses.length = 0 then .ok []
    else
      forRange (chunkCount addresses.length) (readChunk kit base64Encoder send addresses)
        (List.replicate addresses.length none))

end code

/-! ## What a call throws -/

/-- A call throws the errors of the SDK only. -/
theorem rpcCall_error {α : Type} {operation : String} {fn : Except RpcError α} {err : RpcError}
    (h : rpcCall operation fn = .error err) :
    (∃ message, err = .api message) ∨ ∃ code message, err = .broadcast code message := by
  cases fn with
  | ok value => cases h
  | error inner =>
      obtain rfl : mapRpcError inner operation = err := Except.error.inj h
      unfold mapRpcError
      split
      · exact Or.inl ⟨_, rfl⟩
      · exact Or.inr ⟨_, _, rfl⟩
      · split_ifs
        · exact Or.inr ⟨_, _, rfl⟩
        · exact Or.inl ⟨_, rfl⟩

/-- A call returns what its function does. -/
theorem rpcCall_eq_ok {α : Type} {operation : String} {fn : Except RpcError α} {value : α} :
    rpcCall operation fn = .ok value ↔ fn = .ok value := by
  cases fn <;> simp [rpcCall]

/-! ## The chunks -/

/-- The requests are those of slices that are not empty. -/
theorem lt_chunkCount {k n : ℕ} : k < chunkCount n ↔ k * getMultipleAccountsMax < n := by
  simp only [chunkCount, getMultipleAccountsMax]
  omega

/-- The account an answer describes, at the requested address. -/
structure IsAccountInfo (base64Encoder : String → Except String (List UInt8)) (address : String)
    (account : EncodedAccount) (info : SolanaAccountInfo) : Prop where
  address_eq : info.address = address
  lamports_eq : info.lamports = account.lamports
  data_eq : base64Encoder account.data.b64 = .ok info.data
  owner_eq : info.owner = account.owner

/-- An RPC that answers the `n`-th request with `answers n`, if it is for at most 100 addresses,
and encodes the data of accounts in base64. -/
structure AnswersRequests (base64Encoder : String → Except String (List UInt8))
    (send : ℕ → List String → Except String (List (Option EncodedAccount)))
    (answers : ℕ → List String → List (Option EncodedAccount)) : Prop where
  send_eq : ∀ n request, request.length ≤ getMultipleAccountsMax →
    send n request = .ok (answers n request)
  isBase64 : ∀ n request account, some account ∈ answers n request →
    ∃ data, base64Encoder account.data.b64 = .ok data

/-- The answer at position `i` of an output: that to the `i`-th address, `null` as `null`. -/
def IsAnswerAt (base64Encoder : String → Except String (List UInt8)) (addresses : List String)
    (chunk : ℕ → List (Option EncodedAccount)) (i : ℕ) (info : Option SolanaAccountInfo) : Prop :=
  ∃ address answer, addresses[i]? = some address ∧
    (chunk (i / getMultipleAccountsMax))[i % getMultipleAccountsMax]? = some answer ∧
      Option.Rel (IsAccountInfo base64Encoder address) answer info

section chunks

variable {kit : SolanaKit} {base64Encoder : String → Except String (List UInt8)}
  {send : ℕ → List String → Except String (List (Option EncodedAccount))}
  {answers : ℕ → List String → List (Option EncodedAccount)} {addresses : List String}
  {chunk : ℕ → List (Option EncodedAccount)} {out : List (Option SolanaAccountInfo)} {n : ℕ}

/-- Addresses are parsed as they are. -/
theorem mapM_toAddress {slice : List String} (h : ∀ a ∈ slice, kit.isAddress a = true) :
    slice.mapM (toAddress kit) = .ok slice := by
  rw [mapM_eq_ok, List.forall₂_same]
  intro a ha
  rw [toAddress, SolanaKit.address, if_pos (h a ha)]
  rfl

/-- **The inner loop** writes the answers of a chunk at its offset. -/
theorem fillChunk_eq_ok
    (hlen : (chunk n).length = (page addresses getMultipleAccountsMax n).length)
    (hdata : ∀ account, some account ∈ chunk n →
      ∃ data, base64Encoder account.data.b64 = .ok data)
    (hout : out.length = addresses.length)
    (hfilled : FilledTo (IsAnswerAt base64Encoder addresses chunk) (n * getMultipleAccountsMax)
      out) :
    ∃ out', fillChunk base64Encoder (n * getMultipleAccountsMax)
        (page addresses getMultipleAccountsMax n) (chunk n) out = .ok out' ∧
      out'.length = addresses.length ∧
        FilledTo (IsAnswerAt base64Encoder addresses chunk)
          (n * getMultipleAccountsMax + (chunk n).length) out' := by
  refine forRange_eq_ok (I := fun i out => out.length = addresses.length ∧
    FilledTo (IsAnswerAt base64Encoder addresses chunk) (n * getMultipleAccountsMax + i) out)
    ⟨hout, hfilled⟩ ?_
  rintro i hi t ⟨ht, hfilled⟩
  have hpage : i < min getMultipleAccountsMax (addresses.length - n * getMultipleAccountsMax) := by
    rw [← length_page, ← hlen]
    exact hi
  have hmax : i < getMultipleAccountsMax := (lt_min_iff.mp hpage).1
  have hplace : n * getMultipleAccountsMax + i < addresses.length := by
    have hrest := (lt_min_iff.mp hpage).2
    omega
  -- place `i` of chunk `n` is place `n * 100 + i` of the output
  have hslice : (page addresses getMultipleAccountsMax n)[i]? =
      some addresses[n * getMultipleAccountsMax + i] := by
    rw [getElem?_page hmax, List.getElem?_eq_getElem hplace]
  have hanswer : ∀ info, Option.Rel (IsAccountInfo base64Encoder
        addresses[n * getMultipleAccountsMax + i]) (chunk n)[i] info →
      IsAnswerAt base64Encoder addresses chunk (n * getMultipleAccountsMax + i) info := by
    intro info hrel
    refine ⟨_, (chunk n)[i], List.getElem?_eq_getElem hplace, ?_, hrel⟩
    rw [Nat.mul_comm, Nat.mul_add_div (by decide), Nat.div_eq_of_lt hmax, Nat.mul_add_mod,
      Nat.mod_eq_of_lt hmax, Nat.add_zero, List.getElem?_eq_getElem hi]
  have hset : ∀ info, Option.Rel (IsAccountInfo base64Encoder
        addresses[n * getMultipleAccountsMax + i]) (chunk n)[i] info →
      (t.set (n * getMultipleAccountsMax + i) info).length = addresses.length ∧
        FilledTo (IsAnswerAt base64Encoder addresses chunk)
          (n * getMultipleAccountsMax + (i + 1)) (t.set (n * getMultipleAccountsMax + i) info) := by
    intro info hrel
    exact ⟨by rw [List.length_set, ht], hfilled.set (by rwa [ht]) (hanswer info hrel)⟩
  simp only [List.getElem?_eq_getElem hi]
  cases haccount : (chunk n)[i] with
  | none => exact ⟨_, rfl, hset none (haccount ▸ Option.Rel.none)⟩
  | some account =>
      obtain ⟨data, hdecode⟩ := hdata account (haccount ▸ List.getElem_mem hi)
      simp only [decodeBase64Data, hdecode, hslice]
      refine ⟨_, rfl, hset _ ?_⟩
      rw [haccount]
      exact Option.Rel.some ⟨rfl, rfl, hdecode, rfl⟩

section calls

variable (haddr : ∀ a ∈ addresses, kit.isAddress a = true)
  (hsend : AnswersRequests base64Encoder send answers)

/-- What is answered to the `n`-th slice of the addresses. -/
def chunkAnswers (answers : ℕ → List String → List (Option EncodedAccount))
    (addresses : List String) (n : ℕ) : List (Option EncodedAccount) :=
  answers n (page addresses getMultipleAccountsMax n)

/-- A call runs the outer loop. -/
theorem getMultipleAccounts_eq_ok_iff :
    getMultipleAccounts kit base64Encoder send addresses = .ok out ↔
      forRange (chunkCount addresses.length) (readChunk kit base64Encoder send addresses)
        (List.replicate addresses.length none) = .ok out := by
  rw [getMultipleAccounts, rpcCall_eq_ok]
  split_ifs with hempty
  · rw [hempty]
    rfl
  · exact Iff.rfl

include haddr hsend

/-- The `n`-th request and the check of its answers. -/
theorem readChunk_eq : readChunk kit base64Encoder send addresses n out =
    if (chunkAnswers answers addresses n).length ≠
        (page addresses getMultipleAccountsMax n).length then
      .error (lengthMismatch (chunkAnswers answers addresses n).length
        (page addresses getMultipleAccountsMax n).length)
    else
      fillChunk base64Encoder (n * getMultipleAccountsMax)
        (page addresses getMultipleAccountsMax n) (chunkAnswers answers addresses n) out := by
  have hparse : (page addresses getMultipleAccountsMax n).mapM (toAddress kit) =
      .ok (page addresses getMultipleAccountsMax n) :=
    mapM_toAddress fun a ha => haddr a (List.mem_of_mem_drop (List.mem_of_mem_take ha))
  have hanswer : send n (page addresses getMultipleAccountsMax n) =
      .ok (chunkAnswers answers addresses n) :=
    hsend.send_eq n _ (List.length_take_le _ _)
  simp only [readChunk, ← page.eq_def, hparse, hanswer, Except.mapError, bind, Except.bind]
  split_ifs <;> rfl

/-- **The outer loop** fills the output, if each chunk is answered in full. -/
theorem getMultipleAccounts_filled
    (hlen : ∀ n, n * getMultipleAccountsMax < addresses.length →
      (chunkAnswers answers addresses n).length =
        (page addresses getMultipleAccountsMax n).length) :
    ∃ out, getMultipleAccounts kit base64Encoder send addresses = .ok out ∧
      out.length = addresses.length ∧
        FilledTo (IsAnswerAt base64Encoder addresses (chunkAnswers answers addresses))
          addresses.length out := by
  have hloop : ∃ out, forRange (chunkCount addresses.length)
      (readChunk kit base64Encoder send addresses) (List.replicate addresses.length none) =
        .ok out ∧ out.length = addresses.length ∧
          FilledTo (IsAnswerAt base64Encoder addresses (chunkAnswers answers addresses))
            (min (chunkCount addresses.length * getMultipleAccountsMax) addresses.length) out := by
    refine forRange_eq_ok (I := fun k out => out.length = addresses.length ∧
      FilledTo (IsAnswerAt base64Encoder addresses (chunkAnswers answers addresses))
        (min (k * getMultipleAccountsMax) addresses.length) out) ⟨List.length_replicate, ?_⟩ ?_
    · rw [Nat.zero_mul, Nat.zero_min]
      exact filledTo_zero
    · rintro k hk t ⟨ht, hfilled⟩
      have hstart := lt_chunkCount.mp hk
      have hnext : k * getMultipleAccountsMax + (chunkAnswers answers addresses k).length =
          min ((k + 1) * getMultipleAccountsMax) addresses.length := by
        rw [hlen k hstart, length_page, Nat.succ_mul]
        omega
      rw [min_eq_left hstart.le] at hfilled
      rw [readChunk_eq haddr hsend, if_neg (not_not.mpr (hlen k hstart)), ← hnext]
      exact fillChunk_eq_ok (hlen k hstart) (fun account => hsend.isBase64 _ _ account) ht hfilled
  obtain ⟨out, hrun, hout, hfilled⟩ := hloop
  have hend : addresses.length ≤ chunkCount addresses.length * getMultipleAccountsMax :=
    not_lt.mp fun h => lt_irrefl _ (lt_chunkCount.mpr h)
  rw [min_eq_right hend] at hfilled
  exact ⟨out, getMultipleAccounts_eq_ok_iff.mpr hrun, hout, hfilled⟩

/-- **Chunking is transparent**: an answer for each address in order, if each chunk is answered in
full, and an error otherwise. -/
theorem getMultipleAccounts_chunks :
    ((∀ n, n * getMultipleAccountsMax < addresses.length →
        (chunkAnswers answers addresses n).length =
          (page addresses getMultipleAccountsMax n).length) →
      ∃ out, getMultipleAccounts kit base64Encoder send addresses = .ok out ∧
        out.length = addresses.length ∧ ∀ i < addresses.length, ∃ info, out[i]? = some info ∧
          IsAnswerAt base64Encoder addresses (chunkAnswers answers addresses) i info) ∧
      ∀ n, n * getMultipleAccountsMax < addresses.length →
        (chunkAnswers answers addresses n).length ≠
          (page addresses getMultipleAccountsMax n).length →
        ∃ err, getMultipleAccounts kit base64Encoder send addresses = .error err := by
  refine ⟨getMultipleAccounts_filled haddr hsend, ?_⟩
  intro n hn hne
  cases hcall : getMultipleAccounts kit base64Encoder send addresses with
  | error err => exact ⟨err, rfl⟩
  | ok out =>
      -- a loop that returns has passed the check of every chunk
      obtain ⟨t, t', hread⟩ := exists_of_forRange_eq_ok (getMultipleAccounts_eq_ok_iff.mp hcall)
        (lt_chunkCount.mpr hn)
      rw [readChunk_eq haddr hsend, if_pos hne] at hread
      cases hread

end calls

end chunks

section twoChunks

/-- An address of another program. -/
def systemProgramAddress : String := "11111111111111111111111111111111"

/-- Two chunks, the second one with one address. -/
def twoChunks : List String := List.replicate 100 systemProgramAddress ++ [stakeProgramAddress]

/-- A node that knows the account of the stake program. -/
def programState (address : String) : Option EncodedAccount :=
  if address = stakeProgramAddress then
    some
      { lamports := 1, data := .pair "AQ==" "base64",
        owner := "NativeLoader1111111111111111111111111111111" }
  else none

/-- The base64 of one byte. -/
def oneByteEncoder (b64 : String) : Except String (List UInt8) :=
  if b64 = "AQ==" then .ok [1] else .error "invalid base64"

/-- A kit that knows the two addresses. -/
def programKit : SolanaKit where
  isAddress address := address = systemProgramAddress || address = stakeProgramAddress
  createAddressWithSeed _ _ _ := .error (.foreign "not derived")
  decode _ := none

/-- One hundred and one addresses are read in two requests. -/
theorem getMultipleAccounts_chunks_two : ∃ out,
    getMultipleAccounts programKit oneByteEncoder (fun _ request => .ok (request.map programState))
        twoChunks = .ok out ∧
      out.length = 101 ∧ ∃ info, out[100]? = some info ∧
        IsAnswerAt oneByteEncoder twoChunks
          (chunkAnswers (fun _ request => request.map programState) twoChunks) 100 info := by
  have haddr : ∀ a ∈ twoChunks, programKit.isAddress a = true := by
    intro a ha
    rcases List.mem_append.mp ha with ha | ha
    · simp [programKit, List.eq_of_mem_replicate ha]
    · simp [programKit, List.mem_singleton.mp ha]
  have hbase64 : ∀ (_ : ℕ) request account,
      some account ∈ List.map programState request →
        ∃ data, oneByteEncoder account.data.b64 = .ok data := by
    intro _ request account haccount
    obtain ⟨address, -, hstate⟩ := List.mem_map.mp haccount
    unfold programState at hstate
    split_ifs at hstate
    obtain rfl := Option.some.inj hstate
    exact ⟨[1], rfl⟩
  obtain ⟨out, hcall, hlen, hanswers⟩ :=
    (getMultipleAccounts_chunks haddr ⟨fun _ _ _ => rfl, hbase64⟩).1 fun _ _ => List.length_map _
  exact ⟨out, hcall, hlen, hanswers 100 (by decide)⟩

end twoChunks

/-! ## One state of the accounts -/

section state

variable {kit : SolanaKit} {base64Encoder : String → Except String (List UInt8)}
  {send : ℕ → List String → Except String (List (Option EncodedAccount))}
  {state : String → Option EncodedAccount} {accounts : String → Option SolanaAccountInfo}

/-- An answer describes one account at most. -/
theorem eq_of_isAccountInfo {address : String} {answer : Option EncodedAccount}
    {info info' : Option SolanaAccountInfo}
    (h : Option.Rel (IsAccountInfo base64Encoder address) answer info)
    (h' : Option.Rel (IsAccountInfo base64Encoder address) answer info') : info = info' := by
  cases h with
  | none =>
      cases h'
      rfl
  | some h =>
      cases h' with
      | some h' =>
          rw [Option.some.injEq, SolanaAccountInfo.mk.injEq]
          exact ⟨h.address_eq.trans h'.address_eq.symm, h.lamports_eq.trans h'.lamports_eq.symm,
            Except.ok.inj (h.data_eq.symm.trans h'.data_eq), h.owner_eq.trans h'.owner_eq.symm⟩

/-- **Positional reads**: a node that answers from one state of the accounts has it read in the
order of the addresses, however many there are. -/
theorem getMultipleAccounts_eq_map {addresses : List String}
    (haddr : ∀ a ∈ addresses, kit.isAddress a = true)
    (hsend : AnswersRequests base64Encoder send fun _ request => request.map state)
    (haccounts : ∀ a ∈ addresses, Option.Rel (IsAccountInfo base64Encoder a) (state a)
      (accounts a)) :
    getMultipleAccounts kit base64Encoder send addresses = .ok (addresses.map accounts) := by
  obtain ⟨out, hcall, hlen, hfilled⟩ :=
    getMultipleAccounts_filled haddr hsend fun _ _ => List.length_map _
  rw [hcall, Except.ok.injEq]
  apply List.ext_getElem (by rw [hlen, List.length_map])
  intro i hi _
  obtain ⟨info, hinfo, address, answer, haddress, hanswer, hrel⟩ := hfilled i (hlen ▸ hi)
  have hplace : (page addresses getMultipleAccountsMax
      (i / getMultipleAccountsMax))[i % getMultipleAccountsMax]? = some address := by
    rw [getElem?_page (Nat.mod_lt _ (by decide)), Nat.div_add_mod', haddress]
  rw [chunkAnswers, List.getElem?_map, hplace, Option.map_some, Option.some.injEq] at hanswer
  obtain ⟨hlt, rfl⟩ := List.getElem?_eq_some_iff.mp haddress
  rw [List.getElem_map]
  rw [List.getElem?_eq_getElem hi, Option.some.injEq] at hinfo
  rw [← hanswer] at hrel
  exact hinfo.trans (eq_of_isAccountInfo hrel (haccounts _ (List.getElem_mem hlt)))

end state

end GuardianStake.Solana
