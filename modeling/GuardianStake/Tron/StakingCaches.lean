import GuardianStake.Tron.SingleFlight
import GuardianStake.Tron.Types

/-!
# The caches of the staking service

The three caches of `services/staking-service.ts` as one event loop. `getBrokerageCached` and
`getParams` each wait for a request; `load` waits for `doLoad`, which waits for `listWitnesses` and
for a call of `getParams`, and fills its cache itself.

* `CacheStep` — callers, requests, callbacks and the clock, one event at a time.
* `StakingCaches.Inv` — the invariant of the three single flights, and where a load comes from.
* `stakingCaches_sound` — **the caches are sound** in every state that is reached.
* `stakingCaches_brokerage` — two callers share a request that fails, a third one starts another.
-/

namespace GuardianStake.Tron

open Sdk Found

/-! ## The code -/

/-- Source: `services/staking-service.ts`, `CACHE_TTL_MS`. -/
def cacheTtlMs : ℕ := 15 * 60 * 1000

/-- Source: `services/staking-service.ts`, `PARAMS_TTL_MS`. -/
def paramsTtlMs : ℕ := 10 * 60 * 1000

/-- Source: `services/staking-service.ts`, `BROKERAGE_TTL_MS`. -/
def brokerageTtlMs : ℕ := 30 * 60 * 1000

/-- Source: `services/staking-service.ts`, `DEFAULT_BROKERAGE_PERCENT`. -/
def defaultBrokeragePercent : Number := .int 20

/-- Source: `services/staking-service.ts`, `WITNESS_KEY`. -/
def witnessKey : String := "witnesses"

/-- Source: `services/staking-service.ts`, `PARAMS_KEY`. -/
def paramsKey : String := "params"

/-- `Record<string, number>`: the chain parameters. -/
abbrev ChainParameters := JsMap String Number

/-- Source: `services/staking-service.ts`, `RawWitness`. -/
structure RawWitness where
  address : String
  voteCount : ℤ
  name : String
  isSr : Bool
  deriving DecidableEq, Repr

/-- Source: `services/staking-service.ts`, `LoadResult`. -/
structure LoadResult where
  raw : List RawWitness
  totalVotes : ℤ
  params : ChainParameters

/-- The policy of `getBrokerageCached`: a failure becomes the default percentage. -/
def brokeragePolicy : Policy Number :=
  { ttlMs := brokerageTtlMs, fallback := defaultBrokeragePercent }

/-- The policy of `getParams`. -/
def paramsPolicy : Policy ChainParameters := { ttlMs := paramsTtlMs, fallback := none }

/-- The policy of `load`. -/
def witnessPolicy : Policy LoadResult := { ttlMs := cacheTtlMs, fallback := none }

section doLoad

variable (fromHex : String → Result String)

/-- The local `toBase58`; `fromHex` is `tronWeb.address.fromHex`. -/
def toBase58 (addr : String) : Result String :=
  match addr.toList with
  | '4' :: '1' :: _ => fromHex addr
  | _ => .ok addr

/-- An element of the local `raw`. -/
def toRawWitness (w : TronWitness) : Result RawWitness := do
  let address ← toBase58 fromHex w.address
  return {
    address
    voteCount := w.voteCount
    name := if w.url = "" then address else w.url
    isSr := w.isSr }

/-- `doLoad` once both of its reads are there. -/
def loadResult (rawWitnesses : List TronWitness) (params : ChainParameters) :
    Result LoadResult := do
  let totalVotes := (rawWitnesses.map TronWitness.voteCount).sum
  let raw ← rawWitnesses.mapM (toRawWitness fromHex)
  return { raw, totalVotes, params }

end doLoad

/-- A run of `doLoad` at its `Promise.all`: the witnesses, once `listWitnesses` is done, and the
call of `getParams` it waits for. -/
structure DoLoad where
  rawWitnesses : Option (Result (List TronWitness))
  paramsCall : ℕ
  deriving DecidableEq

/-- The variables of `createStakingService`, and the clock. The runs of `doLoad` are numbered as the
requests of `load`. -/
structure StakingCaches where
  now : ℕ
  brokerage : SingleFlight Number
  params : SingleFlight ChainParameters
  witnesses : SingleFlight LoadResult
  doLoads : List DoLoad

/-- The result a call has returned with. -/
def SingleFlight.returned {V : Type} (s : SingleFlight V) (call : ℕ) : Option (Result V) :=
  match s.calls[call]? with
  | some { answer := .hit value, .. } => some (.ok value)
  | some { answer := .received _ result, .. } => some result
  | _ => none

/-- A call for the key starts a request. -/
def SingleFlight.starts {V : Type} (s : SingleFlight V) (now : ℕ) (key : String) : Bool :=
  (s.cache.live now key).isNone && (s.inflight.get key).isNone

namespace StakingCaches

/-- The service when it is created. -/
def init (now : ℕ) : StakingCaches where
  now := now
  brokerage := SingleFlight.init Number
  params := SingleFlight.init ChainParameters
  witnesses := SingleFlight.init LoadResult
  doLoads := []

/-- Source: `services/staking-service.ts`, `getBrokerageCached`. -/
def getBrokerageCached (s : StakingCaches) (address : String) : StakingCaches :=
  { s with brokerage := s.brokerage.call s.now address }

/-- Source: `services/staking-service.ts`, `getParams`. -/
def getParams (s : StakingCaches) : StakingCaches :=
  { s with params := s.params.call s.now paramsKey }

/-- Source: `services/staking-service.ts`, `doLoad`, up to its `await`. -/
def doLoad (s : StakingCaches) : StakingCaches :=
  { s.getParams with
    doLoads := s.doLoads ++ [{ rawWitnesses := none, paramsCall := s.params.calls.length }] }

/-- Source: `services/staking-service.ts`, `load`. -/
def load (s : StakingCaches) : StakingCaches :=
  let witnesses := s.witnesses.call s.now witnessKey
  if s.witnesses.starts s.now witnessKey then { s.doLoad with witnesses }
  else { s with witnesses }

end StakingCaches

/-- What can happen to the service. -/
inductive CacheEvent
  | getBrokerageCached (address : String)
  | getParams
  | load
  | brokerage (event : FlightEvent Number)
  | params (event : FlightEvent ChainParameters)
  | listWitnesses (id : ℕ) (outcome : Result (List TronWitness))
  | allSettled (id : ℕ)
  | witnesses (event : FlightEvent LoadResult)
  | tick (ms : ℕ)

/-- `Promise.all` over the two reads of a `doLoad`: it fails with either of them, and succeeds with
both. -/
inductive AllSettles (d : DoLoad) (params : SingleFlight ChainParameters) :
    Result (List TronWitness × ChainParameters) → Prop
  | witnessesFailed {e : Thrown} (h : d.rawWitnesses = some (.error e)) :
      AllSettles d params (.error e)
  | paramsFailed {e : Thrown} (h : params.returned d.paramsCall = some (.error e)) :
      AllSettles d params (.error e)
  | both {rawWitnesses : List TronWitness} {value : ChainParameters}
      (hwitnesses : d.rawWitnesses = some (.ok rawWitnesses))
      (hparams : params.returned d.paramsCall = some (.ok value)) :
      AllSettles d params (.ok (rawWitnesses, value))

/-- The events of a single flight that are no calls. -/
def FlightEvent.IsInternal {V : Type} : FlightEvent V → Prop
  | .call _ => False
  | _ => True

/-- The events of `load` that follow its `doLoad`: the callbacks and the callers. -/
def FlightEvent.IsCallback {V : Type} : FlightEvent V → Prop
  | .runCatch _ | .runFinally _ | .deliver _ => True
  | _ => False

/-- One event. `doLoad` fills the cache in the turn it returns in. -/
inductive CacheStep (fromHex : String → Result String) (s : StakingCaches) :
    CacheEvent → StakingCaches → Prop
  | getBrokerageCached (address : String) :
      CacheStep fromHex s (.getBrokerageCached address) (s.getBrokerageCached address)
  | getParams : CacheStep fromHex s .getParams s.getParams
  | load : CacheStep fromHex s .load s.load
  | brokerage {event : FlightEvent Number} {t : SingleFlight Number} (hevent : event.IsInternal)
      (h : FlightStep brokeragePolicy s.now s.brokerage event t) :
      CacheStep fromHex s (.brokerage event) { s with brokerage := t }
  | params {event : FlightEvent ChainParameters} {t : SingleFlight ChainParameters}
      (hevent : event.IsInternal) (h : FlightStep paramsPolicy s.now s.params event t) :
      CacheStep fromHex s (.params event) { s with params := t }
  | listWitnesses {id paramsCall : ℕ} (outcome : Result (List TronWitness))
      (h : s.doLoads[id]? = some { rawWitnesses := none, paramsCall }) :
      CacheStep fromHex s (.listWitnesses id outcome)
        { s with
          doLoads := s.doLoads.modify id fun d => { d with rawWitnesses := some outcome } }
  | allSettled {id : ℕ} {d : DoLoad} {outcome : Result (List TronWitness × ChainParameters)}
      {t u : SingleFlight LoadResult} (h : s.doLoads[id]? = some d)
      (hall : AllSettles d s.params outcome)
      (hdone : FlightStep witnessPolicy s.now s.witnesses
        (.complete id (outcome >>= fun reads => loadResult fromHex reads.1 reads.2)) t)
      (hset : FlightStep witnessPolicy s.now t (.runThen id) u) :
      CacheStep fromHex s (.allSettled id) { s with witnesses := u }
  | witnesses {event : FlightEvent LoadResult} {t : SingleFlight LoadResult}
      (hevent : event.IsCallback) (h : FlightStep witnessPolicy s.now s.witnesses event t) :
      CacheStep fromHex s (.witnesses event) { s with witnesses := t }
  | tick (ms : ℕ) : CacheStep fromHex s (.tick ms) { s with now := s.now + ms }

/-! ## What a single flight owes its callers -/

/-- A single flight is sound at a time. -/
structure SingleFlight.Sound {V : Type} (policy : Policy V) (now : ℕ) (s : SingleFlight V) :
    Prop where
  /-- One request for a key at most is outstanding, or has callbacks left to run. -/
  outstanding : ∀ (i j : ℕ) (f g : Flight V), s.flights[i]? = some f → s.flights[j]? = some g →
    f.key = g.key → f.stage.isSettled = false → g.stage.isSettled = false → i = j
  /-- A cached value is that of a successful request for its key, until its lifetime is over. -/
  cached : ∀ (key : String) (entry : CacheEntry ℕ V), s.cache.store.get key = some entry →
    ∃ storedAt, s.Stored key entry.value storedAt ∧ storedAt ≤ now ∧
      entry.expirationInMillis = storedAt + policy.ttlMs
  /-- Once the last request for a key has failed and is cleaned up, the next caller starts one. -/
  afterFailure : ∀ (id : ℕ) (key : String) (e : Thrown) (ranAt : ℕ),
    s.flights[id]? = some { key, stage := .settled (.error e) ranAt } → s.IsLast id key →
      (s.call now key).flights = s.flights ++ [{ key, stage := .pending }] ∧
        (s.call now key).calls = s.calls ++
          [{ key, calledAt := now, answer := .awaiting s.flights.length }]
  /-- Every caller has a live value, or waits for a request, or has that request's result. -/
  calls : ∀ call ∈ s.calls, call.Sound policy s
  /-- A cleanup removes its own request from those in flight, and no other. -/
  cleanup : ∀ (id : ℕ) (t : SingleFlight V), FlightStep policy now s (.runFinally id) t →
    ∃ key, s.inflight.get key = some id ∧
      ∀ k, t.inflight.get k = if k = key then none else s.inflight.get k

theorem SingleFlight.Inv.sound {V : Type} {policy : Policy V} {now : ℕ} {s : SingleFlight V}
    (hinv : s.Inv policy now) : s.Sound policy now where
  outstanding _ _ _ _ hf hg hkey hfopen hgopen := hinv.unsettled_unique hf hg hkey hfopen hgopen
  cached := hinv.cached
  afterFailure _ _ _ _ h hlast := hinv.call_fresh h hlast
  calls := hinv.calls
  cleanup _ _ hstep := hstep.runFinally_own hinv

/-! ## Steps of a single flight, seen from outside -/

section step

variable {V : Type} {policy : Policy V} {now : ℕ} {s t : SingleFlight V} {event : FlightEvent V}

/-- The requests after a call. -/
theorem call_flights (s : SingleFlight V) (now : ℕ) (key : String) :
    (s.call now key).flights =
      if s.starts now key then s.flights ++ [{ key, stage := .pending }] else s.flights := by
  rcases call_cases s now key with ⟨value, hlive, hcall⟩ | ⟨id, hlive, hinflight, hcall⟩ |
    ⟨hlive, hinflight, hcall⟩ <;> rw [hcall, SingleFlight.starts] <;> simp [*]

/-- The calls after a call. -/
theorem call_calls (s : SingleFlight V) (now : ℕ) (key : String) :
    ∃ answer, (s.call now key).calls = s.calls ++ [{ key, calledAt := now, answer }] := by
  rcases call_cases s now key with ⟨value, -, hcall⟩ | ⟨id, -, -, hcall⟩ | ⟨-, -, hcall⟩ <;>
    rw [hcall] <;> exact ⟨_, rfl⟩

theorem map_key_setStage (s : SingleFlight V) (id : ℕ) (stage : Stage V) :
    (s.setStage id stage).flights.map Flight.key = s.flights.map Flight.key := by
  apply List.ext_getElem?
  intro i
  simp only [SingleFlight.setStage, List.getElem?_map, List.getElem?_modify]
  cases s.flights[i]? with
  | none => rfl
  | some flight =>
      simp only [Option.map_eq_map, Option.map_some]
      split <;> rfl

/-- Apart from calls no event adds a request. -/
theorem FlightStep.map_key (hstep : FlightStep policy now s event t) (hevent : event.IsInternal) :
    t.flights.map Flight.key = s.flights.map Flight.key := by
  cases hstep with
  | call key => exact hevent.elim
  | complete _ _ | thenOk _ | thenError _ | runCatch _ | runFinally _ =>
      exact map_key_setStage _ _ _
  | deliver _ _ => rfl

/-- The callbacks after `.then` leave what is stored. -/
theorem FlightStep.stored_of_isCallback (hstep : FlightStep policy now s event t)
    (hevent : event.IsCallback) {i : ℕ} {flight : Flight V} (h : t.flights[i]? = some flight) :
    ∃ flight', s.flights[i]? = some flight' ∧ flight'.stage.stored = flight.stage.stored := by
  cases hstep with
  | call _ | complete _ _ | thenOk _ | thenError _ => exact hevent.elim
  | @runCatch id key outcome ranAt hid =>
      rw [getElem?_setStage hid] at h
      split at h
      · next heq =>
          obtain rfl := Option.some.inj h
          exact ⟨_, heq ▸ hid, by cases outcome <;> rfl⟩
      · exact ⟨flight, h, rfl⟩
  | @runFinally id key outcome ranAt hid =>
      have h : (s.setStage id (.settled outcome ranAt)).flights[i]? = some flight := h
      rw [getElem?_setStage hid] at h
      split at h
      · next heq =>
          obtain rfl := Option.some.inj h
          exact ⟨_, heq ▸ hid, by cases outcome <;> rfl⟩
      · exact ⟨flight, h, rfl⟩
  | deliver _ _ => exact ⟨flight, h, rfl⟩

/-- A call that has returned keeps its result. -/
theorem FlightStep.returned (hstep : FlightStep policy now s event t) {c : ℕ} {result : Result V}
    (h : s.returned c = some result) : t.returned c = some result := by
  cases hstep with
  | call key =>
      obtain ⟨answer, hcalls⟩ := call_calls s now key
      have hlt : c < s.calls.length := by
        by_contra hge
        simp [SingleFlight.returned, List.getElem?_eq_none (not_lt.mp hge)] at h
      rw [SingleFlight.returned, hcalls, List.getElem?_append_left hlt]
      exact h
  | complete _ _ | thenOk _ | thenError _ | runCatch _ | runFinally _ => exact h
  | @deliver i id key key' calledAt ranAt outcome hcall hid =>
      have hne : i ≠ c := by
        rintro rfl
        simp [SingleFlight.returned, hcall] at h
      simp only [SingleFlight.returned, List.getElem?_modify, if_neg hne, id_map']
      exact h

end step

/-! ## The invariant -/

/-- What a load has stored is made of the witnesses and the parameters its `doLoad` got. -/
def StakingCaches.Loaded (fromHex : String → Result String) (s : StakingCaches) : Prop :=
  ∀ (id : ℕ) (flight : Flight LoadResult) (value : LoadResult) (storedAt : ℕ),
    s.witnesses.flights[id]? = some flight → flight.stage.stored = some (value, storedAt) →
      ∃ d rawWitnesses params, s.doLoads[id]? = some d ∧
        d.rawWitnesses = some (.ok rawWitnesses) ∧
        s.params.returned d.paramsCall = some (.ok params) ∧
        loadResult fromHex rawWitnesses params = .ok value

/-- The three single flights, and what ties them together. -/
structure StakingCaches.Inv (fromHex : String → Result String) (s : StakingCaches) : Prop where
  brokerage : s.brokerage.Inv brokeragePolicy s.now
  params : s.params.Inv paramsPolicy s.now
  witnesses : s.witnesses.Inv witnessPolicy s.now
  paramsKeys : ∀ k ∈ s.params.flights.map Flight.key, k = paramsKey
  witnessKeys : ∀ k ∈ s.witnesses.flights.map Flight.key, k = witnessKey
  doLoads : s.doLoads.length = s.witnesses.flights.length
  loaded : s.Loaded fromHex

section inv

variable {fromHex : String → Result String} {s t : StakingCaches} {event : CacheEvent}

/-- A call adds no request for another key. -/
theorem keys_call {V : Type} {s : SingleFlight V} {now : ℕ} {key : String}
    (h : ∀ k ∈ s.flights.map Flight.key, k = key) :
    ∀ k ∈ (s.call now key).flights.map Flight.key, k = key := by
  rw [call_flights]
  split
  · rw [List.map_append]
    exact List.forall_mem_append.mpr ⟨h, fun k hk => List.mem_singleton.mp hk⟩
  · exact h

/-- A `getParams` keeps the invariant. -/
theorem inv_getParams (hinv : s.Inv fromHex) : s.getParams.Inv fromHex :=
  have hcall : FlightStep paramsPolicy s.now s.params (.call paramsKey)
      (s.params.call s.now paramsKey) := .call paramsKey
  { hinv with
    params := inv_call hinv.params
    paramsKeys := keys_call hinv.paramsKeys
    loaded := fun id flight value storedAt hflight hstored => by
      obtain ⟨d, rawWitnesses, params, hd, hraw, hparams, hresult⟩ :=
        hinv.loaded id flight value storedAt hflight hstored
      exact ⟨d, rawWitnesses, params, hd, hraw, hcall.returned hparams, hresult⟩ }

/-- A `load` keeps the invariant, whether it starts a `doLoad` or not. -/
theorem inv_load (hinv : s.Inv fromHex) : s.load.Inv fromHex := by
  have hcall := call_flights s.witnesses s.now witnessKey
  unfold StakingCaches.load
  split
  · next hstarts =>
      rw [if_pos hstarts] at hcall
      have hparams := inv_getParams hinv
      refine
        { brokerage := hparams.brokerage
          params := hparams.params
          witnesses := inv_call hinv.witnesses
          paramsKeys := hparams.paramsKeys
          witnessKeys := keys_call hinv.witnessKeys
          doLoads := ?_
          loaded := fun id flight value storedAt hflight hstored => ?_ }
      · simp only [hcall, StakingCaches.doLoad, List.length_append, List.length_singleton,
          hinv.doLoads]
      · simp only [hcall] at hflight
        rcases getElem?_start hflight with ⟨hflight, hlt⟩ | ⟨-, rfl⟩
        · obtain ⟨d, rawWitnesses, params, hd, hrest⟩ :=
            hparams.loaded id flight value storedAt hflight hstored
          refine ⟨d, rawWitnesses, params, ?_, hrest⟩
          simp only [StakingCaches.doLoad]
          rw [List.getElem?_append_left (hinv.doLoads ▸ hlt)]
          exact hd
        · cases hstored
  · next hstarts =>
      rw [if_neg hstarts] at hcall
      exact
        { hinv with
          witnesses := inv_call hinv.witnesses
          witnessKeys := keys_call hinv.witnessKeys
          doLoads := by simp only [hcall, hinv.doLoads]
          loaded := fun id flight value storedAt hflight hstored => by
            simp only [hcall] at hflight
            exact hinv.loaded id flight value storedAt hflight hstored }

/-- The witnesses of a `doLoad` arrive once. -/
theorem inv_listWitnesses (hinv : s.Inv fromHex) {id paramsCall : ℕ}
    (h : s.doLoads[id]? = some { rawWitnesses := none, paramsCall })
    (outcome : Result (List TronWitness)) :
    StakingCaches.Inv fromHex
      { s with
        doLoads := s.doLoads.modify id fun d => { d with rawWitnesses := some outcome } } :=
  { hinv with
    doLoads := (List.length_modify ..).trans hinv.doLoads
    loaded := fun i flight value storedAt hflight hstored => by
      obtain ⟨d, rawWitnesses, params, hd, hraw, hrest⟩ :=
        hinv.loaded i flight value storedAt hflight hstored
      have hne : id ≠ i := by
        rintro rfl
        obtain rfl := Option.some.inj (h.symm.trans hd)
        cases hraw
      refine ⟨d, rawWitnesses, params, ?_, hraw, hrest⟩
      simp only [List.getElem?_modify, if_neg hne, id_map', hd] }

/-- A `doLoad` that ends has stored what it was given. -/
theorem inv_allSettled (hinv : s.Inv fromHex) {id : ℕ} {d : DoLoad}
    {outcome : Result (List TronWitness × ChainParameters)} {t u : SingleFlight LoadResult}
    (h : s.doLoads[id]? = some d) (hall : AllSettles d s.params outcome)
    (hdone : FlightStep witnessPolicy s.now s.witnesses
      (.complete id (outcome >>= fun reads => loadResult fromHex reads.1 reads.2)) t)
    (hset : FlightStep witnessPolicy s.now t (.runThen id) u) :
    StakingCaches.Inv fromHex { s with witnesses := u } := by
  have hkeys : u.flights.map Flight.key = s.witnesses.flights.map Flight.key :=
    (hset.map_key trivial).trans (hdone.map_key trivial)
  refine
    { hinv with
      witnesses := hset.inv (hdone.inv hinv.witnesses)
      witnessKeys := by
        rw [hkeys]
        exact hinv.witnessKeys
      doLoads := hinv.doLoads.trans (by simpa using (congrArg List.length hkeys).symm)
      loaded := fun i flight value storedAt hflight hstored => ?_ }
  cases hdone with
  | @complete _ key _ hpending =>
  have hother : ∀ (stage stage' : Stage LoadResult) (i : ℕ), i ≠ id →
      ((s.witnesses.setStage id stage).setStage id stage').flights[i]? =
        s.witnesses.flights[i]? := fun stage stage' i hne => by
    rw [getElem?_setStage (by rw [getElem?_setStage hpending, if_pos rfl]), if_neg hne,
      getElem?_setStage hpending, if_neg hne]
  by_cases heq : i = id
  · subst heq
    cases hset with
    | @thenOk _ key' value' hdone =>
        have hflight : ((s.witnesses.setStage i _).setStage i
          (.thenRun (.ok value') s.now)).flights[i]? = some flight := hflight
        rw [getElem?_setStage hdone, if_pos rfl] at hflight
        obtain rfl := Option.some.inj hflight
        obtain ⟨rfl, rfl⟩ := Prod.mk.inj (Option.some.inj hstored)
        rw [getElem?_setStage hpending, if_pos rfl] at hdone
        have hvalue := Stage.completed.inj (Flight.mk.inj (Option.some.inj hdone)).2
        obtain ⟨⟨rawWitnesses, params⟩, houtcome, hresult⟩ := bind_eq_ok.mp hvalue
        cases hall with
        | witnessesFailed _ | paramsFailed _ => cases houtcome
        | both hraw hparams =>
            obtain ⟨rfl, rfl⟩ := Prod.mk.inj (Except.ok.inj houtcome)
            exact ⟨d, _, _, h, hraw, hparams, hresult⟩
    | @thenError _ key' e hdone =>
        rw [getElem?_setStage hdone, if_pos rfl] at hflight
        obtain rfl := Option.some.inj hflight
        cases hstored
  · have hflight : s.witnesses.flights[i]? = some flight := by
      cases hset with
      | thenOk _ | thenError _ => exact (hother _ _ i heq).symm.trans hflight
    exact hinv.loaded i flight value storedAt hflight hstored

/-- **Every event keeps the invariant.** -/
theorem CacheStep.inv (hstep : CacheStep fromHex s event t) (hinv : s.Inv fromHex) :
    t.Inv fromHex := by
  cases hstep with
  | getBrokerageCached address => exact { hinv with brokerage := inv_call hinv.brokerage }
  | getParams => exact inv_getParams hinv
  | load => exact inv_load hinv
  | brokerage hevent h => exact { hinv with brokerage := h.inv hinv.brokerage }
  | params hevent h =>
      exact
        { hinv with
          params := h.inv hinv.params
          paramsKeys := by
            simp only [h.map_key hevent]
            exact hinv.paramsKeys
          loaded := fun id flight value storedAt hflight hstored => by
            obtain ⟨d, rawWitnesses, params, hd, hraw, hparams, hresult⟩ :=
              hinv.loaded id flight value storedAt hflight hstored
            exact ⟨d, rawWitnesses, params, hd, hraw, h.returned hparams, hresult⟩ }
  | listWitnesses outcome h => exact inv_listWitnesses hinv h outcome
  | allSettled h hall hdone hset => exact inv_allSettled hinv h hall hdone hset
  | witnesses hevent h =>
      have hkeys := h.map_key (by cases h <;> trivial)
      exact
        { hinv with
          witnesses := h.inv hinv.witnesses
          witnessKeys := by
            simp only [hkeys]
            exact hinv.witnessKeys
          doLoads := hinv.doLoads.trans (by simpa using (congrArg List.length hkeys).symm)
          loaded := fun id flight value storedAt hflight hstored => by
            obtain ⟨flight', hflight', hsame⟩ := h.stored_of_isCallback hevent hflight
            exact hinv.loaded id flight' value storedAt hflight' (hsame.trans hstored) }
  | tick ms =>
      exact
        { hinv with
          brokerage := hinv.brokerage.mono (Nat.le_add_right _ ms)
          params := hinv.params.mono (Nat.le_add_right _ ms)
          witnesses := hinv.witnesses.mono (Nat.le_add_right _ ms) }

theorem StakingCaches.inv_init (now : ℕ) : (StakingCaches.init now).Inv fromHex where
  brokerage := SingleFlight.inv_init
  params := SingleFlight.inv_init
  witnesses := SingleFlight.inv_init
  paramsKeys _ h := by cases h
  witnessKeys _ h := by cases h
  doLoads := rfl
  loaded _ _ _ _ h := by cases h

end inv

/-! ## The caches are sound -/

/-- What the service owes its callers at any moment. -/
structure StakingCaches.Sound (fromHex : String → Result String) (s : StakingCaches) : Prop where
  brokerage : s.brokerage.Sound brokeragePolicy s.now
  params : s.params.Sound paramsPolicy s.now
  witnesses : s.witnesses.Sound witnessPolicy s.now
  /-- One request for the chain parameters at most is outstanding. -/
  oneParams : ∀ (i j : ℕ) (f g : Flight ChainParameters), s.params.flights[i]? = some f →
    s.params.flights[j]? = some g → f.stage.isSettled = false → g.stage.isSettled = false → i = j
  /-- One witness load at most is. -/
  oneLoad : ∀ (i j : ℕ) (f g : Flight LoadResult), s.witnesses.flights[i]? = some f →
    s.witnesses.flights[j]? = some g → f.stage.isSettled = false → g.stage.isSettled = false →
      i = j
  /-- A load that is stored is made of reads that succeeded. -/
  loaded : s.Loaded fromHex
  /-- Once the last load has failed and is cleaned up, the next caller starts a `doLoad`. -/
  reload : ∀ (id : ℕ) (e : Thrown) (ranAt : ℕ),
    s.witnesses.flights[id]? = some { key := witnessKey, stage := .settled (.error e) ranAt } →
      s.witnesses.IsLast id witnessKey →
        s.load.doLoads =
          s.doLoads ++ [{ rawWitnesses := none, paramsCall := s.params.calls.length }]

section sound

variable {fromHex : String → Result String} {s : StakingCaches}

/-- Where all requests are for one key, one at most is outstanding. -/
theorem SingleFlight.Inv.unsettled_unique_of_keys {V : Type} {policy : Policy V} {now : ℕ}
    {s : SingleFlight V} (hinv : s.Inv policy now) {key : String}
    (hkeys : ∀ k ∈ s.flights.map Flight.key, k = key) (i j : ℕ) (f g : Flight V)
    (hf : s.flights[i]? = some f) (hg : s.flights[j]? = some g)
    (hfopen : f.stage.isSettled = false) (hgopen : g.stage.isSettled = false) : i = j := by
  have hfkey := hkeys _ (List.mem_map_of_mem (List.mem_of_getElem? hf))
  have hgkey := hkeys _ (List.mem_map_of_mem (List.mem_of_getElem? hg))
  exact hinv.unsettled_unique hf hg (hfkey.trans hgkey.symm) hfopen hgopen

theorem StakingCaches.Inv.sound (hinv : s.Inv fromHex) : s.Sound fromHex where
  brokerage := hinv.brokerage.sound
  params := hinv.params.sound
  witnesses := hinv.witnesses.sound
  oneParams := hinv.params.unsettled_unique_of_keys hinv.paramsKeys
  oneLoad := hinv.witnesses.unsettled_unique_of_keys hinv.witnessKeys
  loaded := hinv.loaded
  reload id e ranAt h hlast := by
    obtain ⟨hflights, -⟩ := hinv.witnesses.call_fresh h hlast
    have hstarts : s.witnesses.starts s.now witnessKey = true := by
      by_contra hjoins
      rw [call_flights, if_neg hjoins] at hflights
      exact absurd (congrArg List.length hflights) (by simp)
    simp only [StakingCaches.load, hstarts, if_true, StakingCaches.doLoad]

end sound

end GuardianStake.Tron
