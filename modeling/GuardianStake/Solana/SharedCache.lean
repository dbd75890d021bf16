import GuardianStake.Found.Transition
import GuardianStake.Sdk.Cache
import GuardianStake.Solana.StakeGates

/-!
# The shared cache of stake positions

`state/stake-cache.ts`: `getBalances` and `getDelegations` share one cache of loaded positions. A
call of `loadPositions` looks into it once, before its first `await`, and writes it once, after its
last; in between others may do the same.

* `SharedStep` — calls, reads of the chain, stores, failures and the clock, one event at a time.
* `SharedCache.Since` — the invariant: what is cached or returned was read late enough, or by a load
  that was in progress at the start.
* `sharedCache_since` — **how far the cache goes back**: after a newer result was stored, to loads
  that were in progress then, and no further.
* `sharedCache_rollback` — and that far it does go back.
-/

namespace GuardianStake.Solana

open Sdk Found

/-! ## The code -/

/-- Source: `state/constants.ts`, `DEFAULT_STAKE_CACHE_TTL_MS`. -/
def defaultStakeCacheTtlMs : ℕ := 30000

/-- The requests of `loadPositions`. -/
inductive SolanaRequest
  | getMultipleAccounts (addresses : List String)
  | getProgramAccountsStakeByStaker (authority : String)
  | getClockEpoch
  | getStakeHistory
  deriving DecidableEq

/-- A request the chain was read for at a time, unless it failed on the way. -/
structure ChainRead where
  request : SolanaRequest
  readAt : ℕ
  failure : Option Thrown
  deriving DecidableEq

/-- A call of `loadPositions` that missed; `outcome` is what it settled with. -/
structure PositionLoad where
  authority : String
  reads : List ChainRead
  outcome : Option (Result (List StakePosition))
  deriving DecidableEq

/-- The array a load has made. Arrays are objects: two loads make two of them. -/
structure LoadedPositions where
  positions : List StakePosition
  load : ℕ
  deriving DecidableEq

/-- A call of `loadPositions` that has returned. -/
structure LoadReturn where
  authority : String
  loaded : LoadedPositions
  deriving DecidableEq

/-- What `loadPositions` is given besides the cache: the chain at every moment, and the
configuration, its `stakeCacheTtlMs` apart. -/
structure SharedDeps where
  kit : SolanaKit
  W : PerEpochAmounts
  chain : ℕ → SolanaRpcClient
  config : LoadPositionsConfig
  stakeCacheTtlMs : Option ℕ

/-- The answer to a request. One that is not answered counts as failed. -/
def SharedDeps.answerTo (deps : SharedDeps) {V : Type} (reads : List ChainRead)
    (request : SolanaRequest) (ask : SolanaRpcClient → Result V) : Result V :=
  match reads.find? fun read => read.request = request with
  | none => .error (.foreign "not answered")
  | some read =>
      match read.failure with
      | some e => .error e
      | none => ask (deps.chain read.readAt)

/-- The answers a load has got, as a client. It makes no other requests. -/
def SharedDeps.answers (deps : SharedDeps) (reads : List ChainRead) : SolanaRpcClient where
  getBalance := fun _ => .error (.foreign "not asked")
  getStakeMinimumDelegation := .error (.foreign "not asked")
  getMinimumBalanceForRentExemption := fun _ => .error (.foreign "not asked")
  getLatestBlockhash := .error (.foreign "not asked")
  getClock := .error (.foreign "not asked")
  getMultipleAccounts := fun addresses =>
    deps.answerTo reads (.getMultipleAccounts addresses) fun rpc =>
      rpc.getMultipleAccounts addresses
  getProgramAccountsStakeByStaker := fun authority =>
    deps.answerTo reads (.getProgramAccountsStakeByStaker authority) fun rpc =>
      rpc.getProgramAccountsStakeByStaker authority
  getClockEpoch := deps.answerTo reads .getClockEpoch SolanaRpcClient.getClockEpoch
  getStakeHistory := deps.answerTo reads .getStakeHistory SolanaRpcClient.getStakeHistory

/-- What a load that missed makes of its answers. -/
def SharedDeps.load (deps : SharedDeps) (load : PositionLoad) : Result (List StakePosition) :=
  loadPositions deps.kit deps.W (deps.answers load.reads) none deps.config load.authority

/-- The cache with every load so far, and what calls have returned. -/
structure SharedCache where
  now : ℕ
  cache : Cache String LoadedPositions
  loads : List PositionLoad
  returns : List LoadReturn

namespace SharedCache

/-- Source: `state/stake-cache.ts`, `createStakePositionCache`. -/
def init (deps : SharedDeps) (now : ℕ) : SharedCache where
  now := now
  cache := createInMemoryCache String LoadedPositions
    (deps.stakeCacheTtlMs.getD defaultStakeCacheTtlMs)
  loads := []
  returns := []

/-- A call of `loadPositions`: it returns what is cached, or starts to load. -/
def call (s : SharedCache) (authority : String) : SharedCache :=
  let (cached, cache) := s.cache.get s.now authority
  match cached with
  | some loaded => { s with cache, returns := s.returns ++ [{ authority, loaded }] }
  | none => { s with cache, loads := s.loads ++ [{ authority, reads := [], outcome := none }] }

/-- The chain is read for a load. -/
def read (s : SharedCache) (id : ℕ) (request : SolanaRequest) (failure : Option Thrown) :
    SharedCache :=
  { s with
    loads := s.loads.modify id fun load =>
      { load with reads := load.reads ++ [{ request, readAt := s.now, failure }] } }

/-- A load settles. -/
def settle (s : SharedCache) (id : ℕ) (outcome : Result (List StakePosition)) : SharedCache :=
  { s with loads := s.loads.modify id fun load => { load with outcome := some outcome } }

/-- The end of `loadPositions`: the write and the return. -/
def store (deps : SharedDeps) (s : SharedCache) (id : ℕ) (authority : String)
    (positions : List StakePosition) : SharedCache :=
  { s.settle id (.ok positions) with
    cache := s.cache.set s.now authority { positions, load := id }
      (some (deps.stakeCacheTtlMs.getD defaultStakeCacheTtlMs))
    returns := s.returns ++ [{ authority, loaded := { positions, load := id } }] }

end SharedCache

/-- What can happen to the cache. -/
inductive SharedEvent
  | call (authority : String)
  | read (id : ℕ) (request : SolanaRequest) (failure : Option Thrown)
  | store (id : ℕ)
  | fail (id : ℕ)
  | tick (ms : ℕ)
  deriving DecidableEq

/-- One event. The chain is read for a load at any time and in any order until it settles; what it
makes of the answers decides how. -/
inductive SharedStep (deps : SharedDeps) (s : SharedCache) : SharedEvent → SharedCache → Prop
  | call (authority : String) : SharedStep deps s (.call authority) (s.call authority)
  | read {id : ℕ} {load : PositionLoad} (request : SolanaRequest) (failure : Option Thrown)
      (h : s.loads[id]? = some load) (hopen : load.outcome = none) :
      SharedStep deps s (.read id request failure) (s.read id request failure)
  | store {id : ℕ} {load : PositionLoad} {positions : List StakePosition}
      (h : s.loads[id]? = some load) (hopen : load.outcome = none)
      (hload : deps.load load = .ok positions) :
      SharedStep deps s (.store id) (s.store deps id load.authority positions)
  | fail {id : ℕ} {load : PositionLoad} {e : Thrown} (h : s.loads[id]? = some load)
      (hopen : load.outcome = none) (hload : deps.load load = .error e) :
      SharedStep deps s (.fail id) (s.settle id (.error e))
  | tick (ms : ℕ) : SharedStep deps s (.tick ms) { s with now := s.now + ms }

/-! ## Loads -/

/-- The load has read the chain at `t` or later. A request that failed has read nothing. -/
def PositionLoad.ReadSince (load : PositionLoad) (t : ℕ) : Prop :=
  ∀ read ∈ load.reads, read.failure = none → t ≤ read.readAt

/-- The load has returned with these positions for the authority, made of its own reads. -/
structure PositionLoad.Made (deps : SharedDeps) (load : PositionLoad) (authority : String)
    (positions : List StakePosition) : Prop where
  authority_eq : load.authority = authority
  outcome_eq : load.outcome = some (.ok positions)
  load_eq : deps.load load = .ok positions

namespace SharedCache

/-- The load has not settled. -/
def InProgress (s : SharedCache) (id : ℕ) : Prop :=
  ∃ load, s.loads[id]? = some load ∧ load.outcome = none

/-- The array was made for the authority by a load that has read the chain at `t` or later, or was
in progress in `s₁`. -/
def Accepts (deps : SharedDeps) (s s₁ : SharedCache) (t : ℕ) (authority : String)
    (loaded : LoadedPositions) : Prop :=
  ∃ load, s.loads[loaded.load]? = some load ∧ load.Made deps authority loaded.positions ∧
    (load.ReadSince t ∨ s₁.InProgress loaded.load)

/-- What holds from `s₁` on for an authority whose cached positions were read at `t` or later. -/
structure Since (deps : SharedDeps) (s s₁ : SharedCache) (t : ℕ) (authority : String) :
    Prop where
  time : t ≤ s.now
  inProgress : ∀ (id : ℕ) (load : PositionLoad), s.loads[id]? = some load → load.outcome = none →
    load.ReadSince t ∨ s₁.InProgress id
  cached : ∀ entry, s.cache.store.get authority = some entry →
    s.Accepts deps s₁ t authority entry.value
  returned : ∃ later, s.returns = s₁.returns ++ later ∧
    ∀ ret ∈ later, ret.authority = authority → s.Accepts deps s₁ t authority ret.loaded

/-- The loads that have settled in `s` are as they were in `s'`. -/
def Keeps (s s' : SharedCache) : Prop :=
  ∀ (id : ℕ) (load : PositionLoad), s.loads[id]? = some load → load.outcome ≠ none →
    s'.loads[id]? = some load

end SharedCache

section steps

variable {deps : SharedDeps} {s s' s₁ : SharedCache} {t : ℕ} {authority : String}
  {event : SharedEvent}

/-- The elements of a modified list. -/
theorem getElem?_modify_eq_some {α : Type} {l : List α} {id i : ℕ} {f : α → α} {x : α}
    (h : (l.modify id f)[i]? = some x) :
    i = id ∧ (∃ y, l[i]? = some y ∧ x = f y) ∨ i ≠ id ∧ l[i]? = some x := by
  rw [List.getElem?_modify] at h
  obtain ⟨y, hy, hx⟩ := Option.map_eq_some_iff.mp h
  by_cases heq : id = i
  · rw [if_pos heq] at hx
    exact Or.inl ⟨heq.symm, y, hy, hx.symm⟩
  · rw [if_neg heq] at hx
    exact Or.inr ⟨Ne.symm heq, hy.trans (congrArg some hx)⟩

/-- Only a load in progress changes. -/
theorem keeps_modify {id : ℕ} {load : PositionLoad} {f : PositionLoad → PositionLoad}
    (h : s.loads[id]? = some load) (hopen : load.outcome = none)
    (hs' : s'.loads = s.loads.modify id f) : s.Keeps s' := by
  intro i other hother hsettled
  rw [hs', List.getElem?_modify, hother]
  by_cases heq : id = i
  · subst heq
    obtain rfl := Option.some.inj (h.symm.trans hother)
    exact absurd hopen hsettled
  · simp [heq]

/-- The two outcomes of a call: a hit, or a new load. -/
theorem SharedCache.call_cases (s : SharedCache) (authority : String) :
    (∃ loaded, s.cache.live s.now authority = some loaded ∧
      s.call authority =
        { s with
          cache := (s.cache.get s.now authority).2
          returns := s.returns ++ [{ authority, loaded }] }) ∨
    (s.cache.live s.now authority = none ∧
      s.call authority =
        { s with
          cache := (s.cache.get s.now authority).2
          loads := s.loads ++ [{ authority, reads := [], outcome := none }] }) := by
  have hfst := s.cache.get_fst s.now authority
  cases hget : s.cache.get s.now authority with
  | mk cached cache =>
      rw [hget] at hfst
      cases cached with
      | some loaded => exact Or.inl ⟨loaded, hfst.symm, by simp only [SharedCache.call, hget]⟩
      | none => exact Or.inr ⟨hfst.symm, by simp only [SharedCache.call, hget]⟩

/-- **A load that has settled stays as it is.** -/
theorem SharedStep.keeps (hstep : SharedStep deps s event s') : s.Keeps s' := by
  cases hstep with
  | call authority =>
      intro id load hload _
      rcases s.call_cases authority with ⟨loaded, -, hcall⟩ | ⟨-, hcall⟩ <;> rw [hcall]
      · exact hload
      · exact (List.getElem?_append_left (List.getElem?_eq_some_iff.mp hload).1).trans hload
  | read request failure h hopen => exact keeps_modify h hopen rfl
  | store h hopen hload => exact keeps_modify h hopen rfl
  | fail h hopen hload => exact keeps_modify h hopen rfl
  | tick ms => exact fun _ _ hload _ => hload

/-- What is accepted stays so. -/
theorem SharedCache.Accepts.keeps {loaded : LoadedPositions} (hkeeps : s.Keeps s')
    (h : s.Accepts deps s₁ t authority loaded) : s'.Accepts deps s₁ t authority loaded := by
  obtain ⟨load, hload, hmade, hsince⟩ := h
  have hsettled : load.outcome ≠ none := by
    rw [hmade.outcome_eq]
    exact Option.some_ne_none _
  exact ⟨load, hkeeps _ _ hload hsettled, hmade, hsince⟩

/-! ### Every event -/

/-- An event that touches neither the cache nor the returns. -/
theorem since_of_loads (hsince : s.Since deps s₁ t authority) (hkeeps : s.Keeps s')
    (hnow : s'.now = s.now) (hcache : s'.cache = s.cache) (hreturns : s'.returns = s.returns)
    (hopen : ∀ (id : ℕ) (load : PositionLoad), s'.loads[id]? = some load → load.outcome = none →
      load.ReadSince t ∨ s₁.InProgress id) : s'.Since deps s₁ t authority where
  time := hnow ▸ hsince.time
  inProgress := hopen
  cached entry hentry := (hsince.cached entry (hcache ▸ hentry)).keeps hkeeps
  returned := by
    obtain ⟨later, hlater, haccepts⟩ := hsince.returned
    exact ⟨later, hreturns.trans hlater, fun ret hret heq => (haccepts ret hret heq).keeps hkeeps⟩

/-- One more return, of something that is accepted if it is for the authority. -/
theorem returned_append (hsince : s.Since deps s₁ t authority) (hkeeps : s.Keeps s')
    {ret : LoadReturn} (hreturns : s'.returns = s.returns ++ [ret])
    (hret : ret.authority = authority → s'.Accepts deps s₁ t authority ret.loaded) :
    ∃ later, s'.returns = s₁.returns ++ later ∧
      ∀ ret ∈ later, ret.authority = authority →
        s'.Accepts deps s₁ t authority ret.loaded := by
  obtain ⟨later, hlater, haccepts⟩ := hsince.returned
  refine ⟨later ++ [ret], by rw [hreturns, hlater, List.append_assoc], ?_⟩
  refine List.forall_mem_append.mpr
    ⟨fun r hr heq => (haccepts r hr heq).keeps hkeeps, fun r hr => ?_⟩
  obtain rfl := List.mem_singleton.mp hr
  exact hret

/-- A call keeps the invariant: a hit is accepted, and a new load has read nothing yet. -/
theorem since_call (hsince : s.Since deps s₁ t authority) (key : String) :
    (s.call key).Since deps s₁ t authority := by
  have hstep : SharedStep deps s (.call key) (s.call key) := .call key
  have hkeeps := hstep.keeps
  rcases s.call_cases key with ⟨loaded, hlive, hcall⟩ | ⟨-, hcall⟩ <;> rw [hcall] at hkeeps ⊢
  · refine ⟨hsince.time, hsince.inProgress, fun entry hentry => ?_, ?_⟩
    · exact (hsince.cached entry (InMemoryCache.store_get_of_get hentry)).keeps hkeeps
    · refine returned_append hsince hkeeps rfl fun hkey => ?_
      obtain ⟨entry, hentry, rfl, -⟩ := InMemoryCache.live_eq_some.mp hlive
      exact (hsince.cached entry (hkey ▸ hentry)).keeps hkeeps
  · refine ⟨hsince.time, fun id load hload hopen => ?_, fun entry hentry => ?_, ?_⟩
    · rcases lt_or_ge id s.loads.length with hlt | hge
      · rw [List.getElem?_append_left hlt] at hload
        exact hsince.inProgress id load hload hopen
      · rw [List.getElem?_append_right hge] at hload
        obtain rfl := List.mem_singleton.mp (List.mem_of_getElem? hload)
        exact Or.inl fun read hread => absurd hread List.not_mem_nil
    · exact (hsince.cached entry (InMemoryCache.store_get_of_get hentry)).keeps hkeeps
    · obtain ⟨later, hlater, haccepts⟩ := hsince.returned
      exact ⟨later, hlater, fun ret hret heq => (haccepts ret hret heq).keeps hkeeps⟩

/-- A read keeps it: the chain is read now, not before `t`. -/
theorem since_read (hsince : s.Since deps s₁ t authority) {id : ℕ} {load : PositionLoad}
    (request : SolanaRequest) (failure : Option Thrown) (h : s.loads[id]? = some load)
    (hopen : load.outcome = none) : (s.read id request failure).Since deps s₁ t authority := by
  refine since_of_loads hsince (keeps_modify h hopen rfl) rfl rfl rfl fun i other hother hnone => ?_
  rcases getElem?_modify_eq_some hother with ⟨rfl, load', hload', rfl⟩ | ⟨-, hother⟩
  · rcases hsince.inProgress i load' hload' hnone with hreads | hold
    · refine Or.inl (List.forall_mem_append.mpr ⟨hreads, fun read hread _ => ?_⟩)
      obtain rfl := List.mem_singleton.mp hread
      exact hsince.time
    · exact Or.inr hold
  · exact hsince.inProgress i other hother hnone

/-- The loads in progress once one has settled. -/
theorem inProgress_settle {id i : ℕ} {outcome : Result (List StakePosition)} {load : PositionLoad}
    (h : (s.settle id outcome).loads[i]? = some load) (hopen : load.outcome = none) :
    i ≠ id ∧ s.loads[i]? = some load := by
  rcases getElem?_modify_eq_some h with ⟨-, load', -, rfl⟩ | hother
  · cases hopen
  · exact hother

/-- A store makes its own array the cached one. -/
theorem made_store {id : ℕ} {load : PositionLoad} {positions : List StakePosition}
    (h : s.loads[id]? = some load) (hload : deps.load load = .ok positions) :
    ∃ made, (s.store deps id load.authority positions).loads[id]? = some made ∧
      made.Made deps load.authority positions ∧ made.reads = load.reads := by
  refine ⟨{ load with outcome := some (.ok positions) }, ?_, ⟨rfl, rfl, hload⟩, rfl⟩
  simp only [SharedCache.store, SharedCache.settle, List.getElem?_modify, h, if_pos]
  rfl

/-- A store keeps it: a load that could have read before `t` was in progress in `s₁`. -/
theorem since_store (hsince : s.Since deps s₁ t authority) {id : ℕ} {load : PositionLoad}
    {positions : List StakePosition} (h : s.loads[id]? = some load) (hopen : load.outcome = none)
    (hload : deps.load load = .ok positions) :
    (s.store deps id load.authority positions).Since deps s₁ t authority := by
  have hkeeps : s.Keeps (s.store deps id load.authority positions) := keeps_modify h hopen rfl
  have haccepts : load.authority = authority →
      (s.store deps id load.authority positions).Accepts deps s₁ t authority
        { positions, load := id } := fun heq => by
    obtain ⟨made, hmade, hof, hreads⟩ := made_store h hload
    refine ⟨made, hmade, heq ▸ hof, ?_⟩
    rw [PositionLoad.ReadSince, hreads]
    exact hsince.inProgress id load h hopen
  refine ⟨hsince.time, fun i other hother hnone => ?_, fun entry hentry => ?_,
    returned_append hsince hkeeps rfl haccepts⟩
  · exact hsince.inProgress i other (inProgress_settle hother hnone).2 hnone
  · have hentry : (s.cache.set s.now load.authority { positions, load := id }
        (some (deps.stakeCacheTtlMs.getD defaultStakeCacheTtlMs))).store.get authority =
      some entry := hentry
    rw [InMemoryCache.store_get_set] at hentry
    split at hentry
    · next heq =>
        obtain rfl := Option.some.inj hentry
        exact haccepts heq.symm
    · exact (hsince.cached entry hentry).keeps hkeeps

/-- **Every event keeps the invariant.** -/
theorem SharedStep.since (hstep : SharedStep deps s event s')
    (hsince : s.Since deps s₁ t authority) : s'.Since deps s₁ t authority := by
  cases hstep with
  | call key => exact since_call hsince key
  | read request failure h hopen => exact since_read hsince request failure h hopen
  | store h hopen hload => exact since_store hsince h hopen hload
  | fail h hopen hload =>
      refine since_of_loads hsince (keeps_modify h hopen rfl) rfl rfl rfl
        fun i other hother hnone => ?_
      exact hsince.inProgress i other (inProgress_settle hother hnone).2 hnone
  | tick ms =>
      exact
        { time := hsince.time.trans (Nat.le_add_right _ _)
          inProgress := hsince.inProgress
          cached := hsince.cached
          returned := hsince.returned }

/-- **A newer result establishes it**, when it is stored. -/
theorem since_of_store {id : ℕ} {load : PositionLoad} {positions : List StakePosition}
    (ht : t ≤ s.now) (h : s.loads[id]? = some load) (hload : deps.load load = .ok positions)
    (hreads : load.ReadSince t) :
    (s.store deps id load.authority positions).Since deps
      (s.store deps id load.authority positions) t load.authority where
  time := ht
  inProgress i other hother hnone := Or.inr ⟨other, hother, hnone⟩
  cached entry hentry := by
    have hentry : (s.cache.set s.now load.authority { positions, load := id }
        (some (deps.stakeCacheTtlMs.getD defaultStakeCacheTtlMs))).store.get load.authority =
      some entry := hentry
    rw [InMemoryCache.store_get_set, if_pos rfl] at hentry
    obtain rfl := Option.some.inj hentry
    obtain ⟨made, hmade, hof, hsame⟩ := made_store h hload
    refine ⟨made, hmade, hof, Or.inl ?_⟩
    rw [PositionLoad.ReadSince, hsame]
    exact hreads
  returned := ⟨[], (List.append_nil _).symm, fun _ hret => absurd hret List.not_mem_nil⟩

end steps

/-! ## How far the cache goes back -/

/-- **How far the cache goes back.** Once a load whose reads of the chain were all at `t` or later
has been stored, whatever the order in which calls, reads, stores and failures follow: a later call
for its authority returns what a load for the authority made of its own reads, and that load has
read the chain at `t` or later, or was in progress when the newer result was stored. -/
theorem sharedCache_since {deps : SharedDeps} {s s₁ : SharedCache} {id t : ℕ} {load : PositionLoad}
    (ht : t ≤ s.now) (hload : s.loads[id]? = some load) (hreads : load.ReadSince t)
    (hstore : SharedStep deps s (.store id) s₁) {l : List (SharedEvent × SharedCache)}
    (hrun : Run (SharedStep deps) s₁ l) :
    ∀ s' ∈ s₁ :: l.map Prod.snd, ∃ later, s'.returns = s₁.returns ++ later ∧
      ∀ ret ∈ later, ret.authority = load.authority →
        s'.Accepts deps s₁ t load.authority ret.loaded := by
  cases hstore with
  | @store _ load' positions h hopen hmade =>
      obtain rfl := Option.some.inj (hload.symm.trans h)
      have hfirst := since_of_store ht h hmade hreads
      have hall := hrun.invariant (fun _ _ _ hsince hstep => hstep.since hsince) hfirst
      refine List.forall_mem_cons.mpr ⟨hfirst.returned, fun s' hs' => ?_⟩
      obtain ⟨p, hp, rfl⟩ := List.mem_map.mp hs'
      exact (hall p hp).returned

/-- A chain on which the wallet delegates at 5. -/
def delegatesAtFive (now : ℕ) : SolanaRpcClient :=
  if now < 5 then rpcOf fun _ => none else delegatedRpc 800

/-- The wallet on that chain. -/
def walletDeps : SharedDeps where
  kit := delegatedKit
  W := oneLamport
  chain := delegatesAtFive
  config := {}
  stakeCacheTtlMs := none

/-- The request of the seed scan for the accounts of the wallet. -/
def walletRequest : SolanaRequest := .getMultipleAccounts ((List.range 50).map walletAddress)

/-- A load that has read the chain before the delegation. -/
def olderLoad : PositionLoad where
  authority := wallet
  reads := [{ request := walletRequest, readAt := 0, failure := none }]
  outcome := none

/-- A load that has read it afterwards. -/
def newerLoad : PositionLoad where
  authority := wallet
  reads :=
    [{ request := walletRequest, readAt := 5, failure := none },
      { request := .getClockEpoch, readAt := 5, failure := none },
      { request := .getStakeHistory, readAt := 5, failure := none }]
  outcome := none

/-- The two loads in progress. -/
def overlappingLoads : SharedCache :=
  { SharedCache.init walletDeps 5 with loads := [olderLoad, newerLoad] }

/-- The second call comes while the first one waits. -/
theorem overlappingLoads_reachable :
    ∃ l, Run (SharedStep walletDeps) (SharedCache.init walletDeps 0) l ∧
      lastState (SharedCache.init walletDeps 0) l = overlappingLoads := by
  have hrun : Run (SharedStep walletDeps) (SharedCache.init walletDeps 0) _ :=
    .cons (.call wallet) <|
    .cons (@SharedStep.read _ _ 0 { authority := wallet, reads := [], outcome := none }
      walletRequest none rfl rfl) <|
    .cons (.tick 5) <|
    .cons (.call wallet) <|
    .cons (@SharedStep.read _ _ 1 { authority := wallet, reads := [], outcome := none }
      walletRequest none rfl rfl) <|
    .cons (@SharedStep.read _ _ 1
      { authority := wallet, reads := newerLoad.reads.take 1, outcome := none }
      .getClockEpoch none rfl rfl) <|
    .cons (@SharedStep.read _ _ 1
      { authority := wallet, reads := newerLoad.reads.take 2, outcome := none }
      .getStakeHistory none rfl rfl) <| .nil _
  exact ⟨_, hrun, rfl⟩

/-- What the two loads make of their reads. -/
theorem load_newerLoad : walletDeps.load newerLoad = .ok [delegatedPosition 1000000000 0 0] := by
  decide +kernel

@[inherit_doc load_newerLoad]
theorem load_olderLoad : walletDeps.load olderLoad = .ok [] := by decide +kernel

/-- The state after the newer load was stored. -/
def newerStored : SharedCache :=
  overlappingLoads.store walletDeps 1 wallet [delegatedPosition 1000000000 0 0]

theorem step_newerStored : SharedStep walletDeps overlappingLoads (.store 1) newerStored :=
  @SharedStep.store _ _ 1 newerLoad _ rfl rfl load_newerLoad

/-- A call that follows is a hit, and returns the delegation. -/
theorem sharedCache_newerStored :
    (newerStored.call wallet).returns = newerStored.returns ++
        [{ authority := wallet,
           loaded := { positions := [delegatedPosition 1000000000 0 0], load := 1 } }] ∧
      ∀ s' ∈ [newerStored, newerStored.call wallet], ∃ later,
        s'.returns = newerStored.returns ++ later ∧
          ∀ ret ∈ later, ret.authority = wallet →
            s'.Accepts walletDeps newerStored 5 wallet ret.loaded := by
  have hreads : newerLoad.ReadSince 5 := by
    unfold PositionLoad.ReadSince
    decide
  have hrun : Run (SharedStep walletDeps) newerStored [(.call wallet, newerStored.call wallet)] :=
    .cons (.call wallet) (.nil _)
  have hload : overlappingLoads.loads[1]? = some newerLoad := rfl
  exact ⟨rfl, sharedCache_since le_rfl hload hreads step_newerStored hrun⟩

/-- The state after the older load was stored over it. -/
def olderStored : SharedCache := newerStored.store walletDeps 0 wallet []

theorem step_olderStored : SharedStep walletDeps newerStored (.store 0) olderStored :=
  @SharedStep.store _ _ 0 olderLoad _ rfl rfl load_olderLoad

/-- What it would take for the cache never to go back: once a result has been stored, no later call
for its authority returns positions that were read before. -/
def NeverGoesBack (deps : SharedDeps) : Prop :=
  ∀ (s s₁ s₂ : SharedCache) (id t : ℕ) (load : PositionLoad) (loaded : LoadedPositions),
    (∃ now l, Run (SharedStep deps) (SharedCache.init deps now) l ∧
      lastState (SharedCache.init deps now) l = s) →
    t ≤ s.now → s.loads[id]? = some load → load.ReadSince t → SharedStep deps s (.store id) s₁ →
    (∃ l, Run (SharedStep deps) s₁ l ∧ lastState s₁ l = s₂) →
    (s₂.call load.authority).returns = s₂.returns ++ [{ authority := load.authority, loaded }] →
    ∃ source, s₂.loads[loaded.load]? = some source ∧ source.ReadSince t

/-- **The cache goes back in time**: a call after the older load was stored is told that there is no
delegation, as it was before 5, though the newer load had been stored. -/
theorem sharedCache_rollback :
    (olderStored.call wallet).returns = olderStored.returns ++
        [{ authority := wallet, loaded := { positions := [], load := 0 } }] ∧
      ¬NeverGoesBack walletDeps := by
  have hhit : (olderStored.call wallet).returns = olderStored.returns ++
      [{ authority := wallet, loaded := { positions := [], load := 0 } }] := rfl
  refine ⟨hhit, fun hnever => ?_⟩
  have hreads : newerLoad.ReadSince 5 := by
    unfold PositionLoad.ReadSince
    decide
  have hrun : Run (SharedStep walletDeps) newerStored [(.store 0, olderStored)] :=
    .cons step_olderStored (.nil _)
  obtain ⟨l, hreach, hlast⟩ := overlappingLoads_reachable
  obtain ⟨source, hsource, hsince⟩ := hnever overlappingLoads newerStored olderStored 1 5 newerLoad
    { positions := [], load := 0 } ⟨0, l, hreach, hlast⟩ le_rfl rfl hreads step_newerStored
    ⟨_, hrun, rfl⟩ hhit
  -- the load that made them has read the chain at 0
  have holder : olderStored.loads[0]? = some { olderLoad with outcome := some (.ok []) } := rfl
  obtain rfl := Option.some.inj (hsource.symm.trans holder)
  exact absurd (hsince _ List.mem_cons_self rfl) (by decide)

end GuardianStake.Solana
