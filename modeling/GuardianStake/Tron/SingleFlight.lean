import GuardianStake.Found.Transition
import GuardianStake.Sdk.Cache

/-!
# Single flight

The pattern that `getParams`, `getBrokerageCached` and `load` of `services/staking-service.ts`
share: look into the cache, else join the request in flight, else start one; its promise callbacks
fill the cache and remove it from the requests in flight.

* `SingleFlight.call` — what a caller does, up to its first `await`.
* `FlightStep` — the callers, the requests and their callbacks, one event at a time.
* `SingleFlight.Inv` — **the invariant**: who is in flight, where cached values come from, what was
  answered; `FlightStep.inv` says that every event keeps it.
* `SingleFlight.Inv.unsettled_unique`, `SingleFlight.Inv.call_fresh`,
  `FlightStep.runFinally_own` — what follows for the requests in flight.
-/

namespace GuardianStake.Tron

open Sdk

/-! ## The code -/

/-- How far a request and its callbacks have come. Callbacks run after the request is done, in the
order `.then`, `.catch`, `.finally`; `ranAt` is when `.then` did. -/
inductive Stage (V : Type)
  | pending
  | completed (outcome : Result V)
  | thenRun (outcome : Result V) (ranAt : ℕ)
  | caught (outcome : Result V) (ranAt : ℕ)
  | settled (outcome : Result V) (ranAt : ℕ)
  deriving DecidableEq

/-- A request that was started for a key. -/
structure Flight (V : Type) where
  key : String
  stage : Stage V
  deriving DecidableEq

/-- What a caller has got: a cached value, a promise to wait for, or the result it waited for.
Promises are named by their position among the requests. -/
inductive Answer (V : Type)
  | hit (value : V)
  | awaiting (flight : ℕ)
  | received (flight : ℕ) (result : Result V)
  deriving DecidableEq

/-- A call of the function. -/
structure Call (V : Type) where
  key : String
  calledAt : ℕ
  answer : Answer V
  deriving DecidableEq

/-- The lifetime of a cached value, and what `.catch` makes of a failure: a value, or nothing where
there is no `.catch`. -/
structure Policy (V : Type) where
  ttlMs : ℕ
  fallback : Option V

/-- What the promise of a request settles with. -/
def Policy.result {V : Type} (policy : Policy V) : Result V → Result V
  | .ok value => .ok value
  | .error e =>
      match policy.fallback with
      | some value => .ok value
      | none => .error e

/-- The variables of the pattern, and every request and call so far. A variable for one promise
instead of a map of them is the entry under the one key in use. -/
structure SingleFlight (V : Type) where
  cache : Cache String V
  inflight : JsMap String ℕ
  flights : List (Flight V)
  calls : List (Call V)

namespace SingleFlight

variable {V : Type}

/-- Nothing called yet. -/
def init (V : Type) : SingleFlight V where
  cache := createInMemoryCache String V
  inflight := JsMap.empty
  flights := []
  calls := []

/-- A call up to its first `await`: a hit, a request to join, or a new one. -/
def call (s : SingleFlight V) (now : ℕ) (key : String) : SingleFlight V :=
  let (cached, cache) := s.cache.get now key
  match cached with
  | some value =>
      { s with cache, calls := s.calls ++ [{ key, calledAt := now, answer := .hit value }] }
  | none =>
      match s.inflight.get key with
      | some flight =>
          { s with
            cache
            calls := s.calls ++ [{ key, calledAt := now, answer := .awaiting flight }] }
      | none =>
          { cache
            inflight := s.inflight.set key s.flights.length
            flights := s.flights ++ [{ key, stage := .pending }]
            calls := s.calls ++
              [{ key, calledAt := now, answer := .awaiting s.flights.length }] }

/-- A request moves on. -/
def setStage (s : SingleFlight V) (id : ℕ) (stage : Stage V) : SingleFlight V :=
  { s with flights := s.flights.modify id fun flight => { flight with stage } }

end SingleFlight

/-- What can happen to a single flight. -/
inductive FlightEvent (V : Type)
  | call (key : String)
  | complete (id : ℕ) (outcome : Result V)
  | runThen (id : ℕ)
  | runCatch (id : ℕ)
  | runFinally (id : ℕ)
  | deliver (call : ℕ)
  deriving DecidableEq

/-- One event at a time `now`. A chain without `.catch` passes its outcome on in `runCatch`. -/
inductive FlightStep {V : Type} (policy : Policy V) (now : ℕ) (s : SingleFlight V) :
    FlightEvent V → SingleFlight V → Prop
  | call (key : String) : FlightStep policy now s (.call key) (s.call now key)
  | complete {id : ℕ} {key : String} (outcome : Result V)
      (h : s.flights[id]? = some { key, stage := .pending }) :
      FlightStep policy now s (.complete id outcome) (s.setStage id (.completed outcome))
  | thenOk {id : ℕ} {key : String} {value : V}
      (h : s.flights[id]? = some { key, stage := .completed (.ok value) }) :
      FlightStep policy now s (.runThen id)
        { s.setStage id (.thenRun (.ok value) now) with
          cache := s.cache.set now key value (some policy.ttlMs) }
  | thenError {id : ℕ} {key : String} {e : Thrown}
      (h : s.flights[id]? = some { key, stage := .completed (.error e) }) :
      FlightStep policy now s (.runThen id) (s.setStage id (.thenRun (.error e) now))
  | runCatch {id : ℕ} {key : String} {outcome : Result V} {ranAt : ℕ}
      (h : s.flights[id]? = some { key, stage := .thenRun outcome ranAt }) :
      FlightStep policy now s (.runCatch id) (s.setStage id (.caught outcome ranAt))
  | runFinally {id : ℕ} {key : String} {outcome : Result V} {ranAt : ℕ}
      (h : s.flights[id]? = some { key, stage := .caught outcome ranAt }) :
      FlightStep policy now s (.runFinally id)
        { s.setStage id (.settled outcome ranAt) with inflight := s.inflight.delete key }
  | deliver {i id : ℕ} {key key' : String} {calledAt ranAt : ℕ} {outcome : Result V}
      (hcall : s.calls[i]? = some { key, calledAt, answer := .awaiting id })
      (h : s.flights[id]? = some { key := key', stage := .settled outcome ranAt }) :
      FlightStep policy now s (.deliver i)
        { s with
          calls := s.calls.modify i fun call =>
            { call with answer := .received id (policy.result outcome) } }

/-! ## Stages -/

namespace Stage

variable {V : Type}

/-- The promise has settled: its callbacks are over. -/
def isSettled : Stage V → Bool
  | .settled .. => true
  | _ => false

/-- The value `.then` put into the cache, and when. -/
def stored : Stage V → Option (V × ℕ)
  | .thenRun (.ok value) ranAt | .caught (.ok value) ranAt | .settled (.ok value) ranAt =>
      some (value, ranAt)
  | _ => none

/-- What a stage keeps of an earlier one: a value that is stored, an outcome it settled with. -/
def Keeps (a b : Stage V) : Prop :=
  (∀ p, a.stored = some p → b.stored = some p) ∧ (a.isSettled = true → b = a)

theorem keeps_refl (a : Stage V) : a.Keeps a := ⟨fun _ h => h, fun _ => rfl⟩

/-- A stage before the last one is kept by any that has stored what it has. -/
theorem keeps_of_stored {a b : Stage V} (hopen : a.isSettled = false)
    (h : a.stored = none ∨ b.stored = a.stored) : a.Keeps b := by
  refine ⟨fun p hp => ?_, fun hsettled => absurd hsettled (by simp [hopen])⟩
  rcases h with hnone | hsame
  · cases hnone.symm.trans hp
  · exact hsame.trans hp

theorem Keeps.stored_eq_none {a b : Stage V} (h : a.Keeps b) (hb : b.stored = none) :
    a.stored = none := by
  cases ha : a.stored with
  | none => rfl
  | some p => cases hb.symm.trans (h.1 p ha)

end Stage

/-! ## The invariant -/

section invariant

variable {V : Type}

/-- The request `id` is one for `key`, and its value went into the cache at `storedAt`. -/
def SingleFlight.Stored (s : SingleFlight V) (key : String) (value : V) (storedAt : ℕ) : Prop :=
  ∃ (id : ℕ) (flight : Flight V), s.flights[id]? = some flight ∧ flight.key = key ∧
    flight.stage.stored = some (value, storedAt)

/-- The request `id` is the last one for its key. -/
def SingleFlight.IsLast (s : SingleFlight V) (id : ℕ) (key : String) : Prop :=
  ∀ (id' : ℕ) (flight' : Flight V), s.flights[id']? = some flight' → flight'.key = key → id' ≤ id

/-- What a caller has is its due: a value that a successful request for its key put into the cache
within the lifetime before the call, a request for its key, or that request's own result. -/
def Call.Sound (policy : Policy V) (s : SingleFlight V) (call : Call V) : Prop :=
  match call.answer with
  | .hit value => ∃ storedAt, s.Stored call.key value storedAt ∧ storedAt ≤ call.calledAt ∧
      call.calledAt < storedAt + policy.ttlMs
  | .awaiting id => ∃ flight, s.flights[id]? = some flight ∧ flight.key = call.key
  | .received id result => ∃ outcome ranAt,
      s.flights[id]? = some { key := call.key, stage := .settled outcome ranAt } ∧
        result = policy.result outcome

/-- What holds between the cache, the requests in flight and the callers. -/
structure SingleFlight.Inv (policy : Policy V) (now : ℕ) (s : SingleFlight V) : Prop where
  /-- What is in flight for a key is a request for it that has not settled. -/
  owned : ∀ (key : String) (id : ℕ), s.inflight.get key = some id →
    ∃ flight, s.flights[id]? = some flight ∧ flight.key = key ∧ flight.stage.isSettled = false
  /-- A request that has not settled is the one in flight for its key. -/
  registered : ∀ (id : ℕ) (flight : Flight V), s.flights[id]? = some flight →
    flight.stage.isSettled = false → s.inflight.get flight.key = some id
  /-- It is also the last one for its key. -/
  last : ∀ (id : ℕ) (flight : Flight V), s.flights[id]? = some flight →
    flight.stage.isSettled = false → s.IsLast id flight.key
  /-- What is cached was stored by a successful request for its key, and its time runs from then. -/
  cached : ∀ (key : String) (entry : CacheEntry ℕ V), s.cache.store.get key = some entry →
    ∃ storedAt, s.Stored key entry.value storedAt ∧ storedAt ≤ now ∧
      entry.expirationInMillis = storedAt + policy.ttlMs
  /-- Unless the last request for a key has stored its value, nothing live is cached for the key. -/
  expired : ∀ (id : ℕ) (flight : Flight V), s.flights[id]? = some flight →
    s.IsLast id flight.key → flight.stage.stored = none →
      ∀ entry, s.cache.store.get flight.key = some entry → entry.expirationInMillis ≤ now
  calls : ∀ call ∈ s.calls, call.Sound policy s

/-- Requests are kept, with what they stored and settled with. -/
def SingleFlight.Keeps (s t : SingleFlight V) : Prop :=
  ∀ (id : ℕ) (flight : Flight V), s.flights[id]? = some flight →
    ∃ flight' : Flight V, t.flights[id]? = some flight' ∧ flight'.key = flight.key ∧
      flight.stage.Keeps flight'.stage

section keeps

variable {policy : Policy V} {s t : SingleFlight V}

theorem SingleFlight.Keeps.stored (h : s.Keeps t) {key : String} {value : V} {storedAt : ℕ}
    (hstored : s.Stored key value storedAt) : t.Stored key value storedAt := by
  obtain ⟨id, flight, hflight, hkey, hvalue⟩ := hstored
  obtain ⟨flight', hflight', hkey', hkeeps⟩ := h id flight hflight
  exact ⟨id, flight', hflight', hkey'.trans hkey, hkeeps.1 _ hvalue⟩

/-- What a caller has stays its due. -/
theorem SingleFlight.Keeps.sound (h : s.Keeps t) {call : Call V} (hcall : call.Sound policy s) :
    call.Sound policy t := by
  obtain ⟨key, calledAt, answer⟩ := call
  cases answer with
  | hit value =>
      obtain ⟨storedAt, hstored, htimes⟩ := hcall
      exact ⟨storedAt, h.stored hstored, htimes⟩
  | awaiting id =>
      obtain ⟨flight, hflight, hkey⟩ := hcall
      obtain ⟨flight', hflight', hkey', -⟩ := h id flight hflight
      exact ⟨flight', hflight', hkey'.trans hkey⟩
  | received id result =>
      obtain ⟨outcome, ranAt, hflight, hresult⟩ := hcall
      obtain ⟨⟨key', stage'⟩, hflight', hkey, hkeeps⟩ := h id _ hflight
      have hstage : stage' = .settled outcome ranAt := hkeeps.2 rfl
      have hkey : key' = key := hkey
      subst hstage hkey
      exact ⟨outcome, ranAt, hflight', hresult⟩

end keeps

/-! ### A request moves on -/

section advance

variable {policy : Policy V} {now : ℕ} {s t : SingleFlight V} {id : ℕ} {key : String}
  {old new : Stage V}

/-- The requests after one of them has moved on. -/
theorem getElem?_setStage (h : s.flights[id]? = some { key, stage := old }) (i : ℕ) :
    (s.setStage id new).flights[i]? =
      if i = id then some { key, stage := new } else s.flights[i]? := by
  simp only [SingleFlight.setStage, List.getElem?_modify]
  split
  · next heq => simp [← heq, h]
  · next hne => simp [Ne.symm hne]

/-- A step that moves one request on, from a stage it keeps: the requests in flight lose it when it
settles, and the cache gains its value when it stores one. -/
structure Advances (policy : Policy V) (now : ℕ) (s t : SingleFlight V) (id : ℕ) (key : String)
    (old new : Stage V) : Prop where
  here : s.flights[id]? = some { key, stage := old }
  unsettled : old.isSettled = false
  keeps : old.Keeps new
  flights : t.flights = (s.setStage id new).flights
  inflight : t.inflight = if new.isSettled then s.inflight.delete key else s.inflight
  calls : t.calls = s.calls
  cache : (t.cache = s.cache ∧ new.stored = old.stored) ∨
    ∃ value, t.cache = s.cache.set now key value (some policy.ttlMs) ∧
      new.stored = some (value, now)

namespace Advances

variable (h : Advances policy now s t id key old new)
include h

theorem getElem? (i : ℕ) :
    t.flights[i]? = if i = id then some { key, stage := new } else s.flights[i]? := by
  rw [h.flights, getElem?_setStage h.here]

/-- The request under a position after the step was there before, for the same key. -/
theorem exists_old {i : ℕ} {flight : Flight V} (hflight : t.flights[i]? = some flight) :
    ∃ flight', s.flights[i]? = some flight' ∧ flight'.key = flight.key ∧
      (i = id ∧ flight' = { key, stage := old } ∧ flight = { key, stage := new } ∨
        i ≠ id ∧ flight' = flight) := by
  rw [h.getElem?] at hflight
  split at hflight
  · next heq =>
      subst heq
      obtain rfl := Option.some.inj hflight
      exact ⟨_, h.here, rfl, Or.inl ⟨rfl, rfl, rfl⟩⟩
  · next hne => exact ⟨flight, hflight, rfl, Or.inr ⟨hne, rfl⟩⟩

theorem keepsAll : s.Keeps t := by
  intro i flight hflight
  by_cases heq : i = id
  · subst heq
    obtain rfl := Option.some.inj (h.here.symm.trans hflight)
    exact ⟨{ key, stage := new }, by rw [h.getElem?, if_pos rfl], rfl, h.keeps⟩
  · exact ⟨flight, by rw [h.getElem?, if_neg heq, hflight], rfl, Stage.keeps_refl _⟩

theorem isLast_iff {i : ℕ} {k : String} : t.IsLast i k ↔ s.IsLast i k := by
  constructor
  · intro hlast id' flight' hflight' hkey
    obtain ⟨flight, hflight, hsame, -⟩ := h.keepsAll id' flight' hflight'
    exact hlast id' flight hflight (hsame.trans hkey)
  · intro hlast id' flight' hflight' hkey
    obtain ⟨flight, hflight, hsame, -⟩ := h.exists_old hflight'
    exact hlast id' flight hflight (hsame.trans hkey)

/-- **A request that moves on keeps the invariant.** -/
theorem inv (hinv : s.Inv policy now) : t.Inv policy now where
  owned k i hi := by
    have hs : s.inflight.get k = some i ∧ (new.isSettled = true → k ≠ key) := by
      rw [h.inflight] at hi
      split at hi
      · rw [JsMap.get_delete] at hi
        split at hi
        · cases hi
        · next hne => exact ⟨hi, fun _ => hne⟩
      · next hnot => exact ⟨hi, fun hnew => absurd hnew hnot⟩
    obtain ⟨flight, hflight, hkey, hopen⟩ := hinv.owned k i hs.1
    by_cases heq : i = id
    · subst heq
      obtain rfl := Option.some.inj (h.here.symm.trans hflight)
      refine ⟨{ key, stage := new }, by rw [h.getElem?, if_pos rfl], hkey, ?_⟩
      cases hnew : new.isSettled with
      | false => rfl
      | true => exact absurd hkey.symm (hs.2 hnew)
    · exact ⟨flight, by rw [h.getElem?, if_neg heq, hflight], hkey, hopen⟩
  registered i flight hflight hopen := by
    have hhere := hinv.registered id _ h.here h.unsettled
    obtain ⟨flight', hflight', hkey, ⟨rfl, rfl, rfl⟩ | ⟨hne, rfl⟩⟩ := h.exists_old hflight
    · have hnew : ¬new.isSettled = true := by simpa using hopen
      rw [h.inflight, if_neg hnew]
      exact hhere
    · have hi := hinv.registered i flight' hflight' hopen
      rw [h.inflight]
      split
      · rw [JsMap.get_delete, if_neg, hi]
        -- only one request for a key is in flight
        rintro rfl
        exact hne (Option.some.inj (hi.symm.trans hhere))
      · exact hi
  last i flight hflight hopen := by
    obtain ⟨flight', hflight', hkey, ⟨rfl, rfl, rfl⟩ | ⟨hne, rfl⟩⟩ := h.exists_old hflight
    · exact h.isLast_iff.mpr (hinv.last i { key, stage := old } h.here h.unsettled)
    · exact h.isLast_iff.mpr (hinv.last i _ hflight' hopen)
  cached k entry hentry := by
    rcases h.cache with ⟨hcache, -⟩ | ⟨value, hcache, hnew⟩
    · rw [hcache] at hentry
      obtain ⟨storedAt, hstored, htimes⟩ := hinv.cached k entry hentry
      exact ⟨storedAt, h.keepsAll.stored hstored, htimes⟩
    · rw [hcache, InMemoryCache.store_get_set] at hentry
      split at hentry
      · next heq =>
          subst heq
          obtain rfl := Option.some.inj hentry
          exact ⟨now, ⟨id, { key := k, stage := new }, by rw [h.getElem?, if_pos rfl], rfl, hnew⟩,
            le_rfl, rfl⟩
      · obtain ⟨storedAt, hstored, htimes⟩ := hinv.cached k entry hentry
        exact ⟨storedAt, h.keepsAll.stored hstored, htimes⟩
  expired i flight hflight hlast hnone entry hentry := by
    have hlast' := h.isLast_iff.mp hlast
    obtain ⟨flight', hflight', hkey, hcases⟩ := h.exists_old hflight
    have hnone' : flight'.stage.stored = none := by
      rcases hcases with ⟨rfl, rfl, rfl⟩ | ⟨-, rfl⟩
      · exact h.keeps.stored_eq_none hnone
      · exact hnone
    rcases h.cache with ⟨hcache, -⟩ | ⟨value, hcache, hnew⟩
    · rw [hcache, ← hkey] at hentry
      exact hinv.expired i flight' hflight' (hkey ▸ hlast') hnone' entry hentry
    · rw [hcache, InMemoryCache.store_get_set] at hentry
      split at hentry
      · next heq =>
          -- the request that stores is the last one for its key
          have hle := hlast' id _ h.here heq.symm
          have hge := hinv.last id _ h.here h.unsettled i flight' hflight' (hkey.trans heq)
          obtain rfl : i = id := le_antisymm hge hle
          rw [h.getElem?, if_pos rfl] at hflight
          obtain rfl := Option.some.inj hflight
          cases hnone.symm.trans hnew
      · rw [← hkey] at hentry
        exact hinv.expired i flight' hflight' (hkey ▸ hlast') hnone' entry hentry
  calls call hcall := by
    rw [h.calls] at hcall
    exact h.keepsAll.sound (hinv.calls call hcall)

end Advances

end advance

/-! ### A call -/

section call

variable {policy : Policy V} {now : ℕ} {s : SingleFlight V} {key : String}

/-- The three outcomes of a call: a hit, a request to join, or a new request. -/
theorem call_cases (s : SingleFlight V) (now : ℕ) (key : String) :
    (∃ value, s.cache.live now key = some value ∧
      s.call now key =
        { s with
          cache := (s.cache.get now key).2
          calls := s.calls ++ [{ key, calledAt := now, answer := .hit value }] }) ∨
    (∃ id, s.cache.live now key = none ∧ s.inflight.get key = some id ∧
      s.call now key =
        { s with
          cache := (s.cache.get now key).2
          calls := s.calls ++ [{ key, calledAt := now, answer := .awaiting id }] }) ∨
    (s.cache.live now key = none ∧ s.inflight.get key = none ∧
      s.call now key =
        { cache := (s.cache.get now key).2
          inflight := s.inflight.set key s.flights.length
          flights := s.flights ++ [{ key, stage := .pending }]
          calls := s.calls ++
            [{ key, calledAt := now, answer := .awaiting s.flights.length }] }) := by
  have hfst := s.cache.get_fst now key
  cases hget : s.cache.get now key with
  | mk cached cache =>
      rw [hget] at hfst
      cases cached with
      | some value => exact Or.inl ⟨value, hfst.symm, by simp only [SingleFlight.call, hget]⟩
      | none =>
          cases hinflight : s.inflight.get key with
          | some id =>
              exact Or.inr (Or.inl ⟨id, hfst.symm, rfl, by
                simp only [SingleFlight.call, hget, hinflight]⟩)
          | none =>
              exact Or.inr (Or.inr ⟨hfst.symm, rfl, by
                simp only [SingleFlight.call, hget, hinflight]⟩)

/-- A caller that is told something true of the requests keeps the invariant. -/
theorem inv_addCall (hinv : s.Inv policy now) {answer : Answer V}
    (hcall : Call.Sound policy s { key, calledAt := now, answer }) :
    SingleFlight.Inv policy now
      { s with
        cache := (s.cache.get now key).2
        calls := s.calls ++ [{ key, calledAt := now, answer }] } where
  owned := hinv.owned
  registered := hinv.registered
  last := hinv.last
  cached k entry hentry := hinv.cached k entry (InMemoryCache.store_get_of_get hentry)
  expired id flight hflight hlast hnone entry hentry :=
    hinv.expired id flight hflight hlast hnone entry (InMemoryCache.store_get_of_get hentry)
  calls := List.forall_mem_append.mpr
    ⟨hinv.calls, fun _ hc => List.mem_singleton.mp hc ▸ hcall⟩

/-- The requests once a new one was started. -/
theorem getElem?_start {flights : List (Flight V)} {flight f : Flight V} {i : ℕ}
    (h : (flights ++ [flight])[i]? = some f) :
    flights[i]? = some f ∧ i < flights.length ∨ i = flights.length ∧ f = flight := by
  rcases lt_or_ge i flights.length with hlt | hge
  · rw [List.getElem?_append_left hlt] at h
    exact Or.inl ⟨h, hlt⟩
  · rw [List.getElem?_append_right hge] at h
    have hzero := (List.getElem?_eq_some_iff.mp h).1
    rw [List.length_singleton] at hzero
    obtain rfl : i = flights.length := by omega
    simp only [Nat.sub_self, List.getElem?_cons_zero] at h
    exact Or.inr ⟨rfl, (Option.some.inj h).symm⟩

/-- **A new request keeps the invariant**: none for its key was left to settle. -/
theorem inv_start (hinv : s.Inv policy now) (hlive : s.cache.live now key = none)
    (hnone : s.inflight.get key = none) :
    SingleFlight.Inv policy now
      { cache := (s.cache.get now key).2
        inflight := s.inflight.set key s.flights.length
        flights := s.flights ++ [{ key, stage := .pending }]
        calls := s.calls ++
          [{ key, calledAt := now, answer := .awaiting s.flights.length }] } := by
  have hkeep : ∀ {i : ℕ} {f : Flight V}, s.flights[i]? = some f →
      (s.flights ++ [{ key, stage := .pending }])[i]? = some f := fun {i f} hf => by
    rw [List.getElem?_append_left (List.getElem?_eq_some_iff.mp hf).1, hf]
  have hnew : (s.flights ++ [{ key, stage := .pending }])[s.flights.length]? =
      some { key, stage := .pending } := by simp
  have hkeeps : s.Keeps
      { cache := (s.cache.get now key).2
        inflight := s.inflight.set key s.flights.length
        flights := s.flights ++ [{ key, stage := .pending }]
        calls := s.calls ++
          [{ key, calledAt := now, answer := .awaiting s.flights.length }] } :=
    fun i f hf => ⟨f, hkeep hf, rfl, Stage.keeps_refl _⟩
  -- an older request for the key has settled
  have hsettled : ∀ {i : ℕ} {f : Flight V}, s.flights[i]? = some f → f.stage.isSettled = false →
      f.key ≠ key := fun {i f} hf hopen hkey => by
    cases (hinv.registered i f hf hopen).symm.trans (hkey ▸ hnone)
  refine ⟨fun k i hi => ?_, fun i f hf hopen => ?_, fun i f hf hopen i' f' hf' hkey => ?_,
    fun k entry hentry => ?_, fun i f hf hlast hstored entry hentry => ?_, ?_⟩
  · rw [JsMap.get_set] at hi
    split at hi
    · next heq =>
        obtain rfl := Option.some.inj hi
        exact ⟨_, hnew, heq.symm, rfl⟩
    · obtain ⟨f, hf, hkey, hopen⟩ := hinv.owned k i hi
      exact ⟨f, hkeep hf, hkey, hopen⟩
  · rw [JsMap.get_set]
    rcases getElem?_start hf with ⟨hf, -⟩ | ⟨rfl, rfl⟩
    · rw [if_neg (hsettled hf hopen)]
      exact hinv.registered i f hf hopen
    · rw [if_pos rfl]
  · rcases getElem?_start hf' with ⟨hf', hlt'⟩ | ⟨rfl, rfl⟩
    · rcases getElem?_start hf with ⟨hf, -⟩ | ⟨rfl, rfl⟩
      · exact hinv.last i f hf hopen i' f' hf' hkey
      · exact hlt'.le
    · rcases getElem?_start hf with ⟨hf, -⟩ | ⟨rfl, rfl⟩
      · exact absurd hkey.symm (hsettled hf hopen)
      · exact le_rfl
  · obtain ⟨storedAt, hstored, htimes⟩ := hinv.cached k entry (InMemoryCache.store_get_of_get hentry)
    exact ⟨storedAt, hkeeps.stored hstored, htimes⟩
  · rw [InMemoryCache.store_get_get] at hentry
    split at hentry
    · cases hentry
    · next hne =>
        have hother : f.key ≠ key := fun heq => hne ⟨heq, hlive⟩
        rcases getElem?_start hf with ⟨hf, -⟩ | ⟨rfl, rfl⟩
        · exact hinv.expired i f hf (fun i' f' hf' hkey => hlast i' f' (hkeep hf') hkey) hstored
            entry hentry
        · exact absurd rfl hother
  · refine List.forall_mem_append.mpr ⟨fun c hc => hkeeps.sound (hinv.calls c hc), ?_⟩
    intro c hc
    obtain rfl := List.mem_singleton.mp hc
    exact ⟨_, hnew, rfl⟩

theorem inv_call (hinv : s.Inv policy now) : (s.call now key).Inv policy now := by
  rcases call_cases s now key with ⟨value, hlive, hcall⟩ | ⟨id, -, hinflight, hcall⟩ |
    ⟨hlive, hinflight, hcall⟩ <;> rw [hcall]
  · obtain ⟨entry, hentry, rfl, hlt⟩ := InMemoryCache.live_eq_some.mp hlive
    obtain ⟨storedAt, hstored, hle, htime⟩ := hinv.cached key entry hentry
    exact inv_addCall hinv ⟨storedAt, hstored, hle, htime ▸ hlt⟩
  · obtain ⟨flight, hflight, hkey, -⟩ := hinv.owned key id hinflight
    exact inv_addCall hinv ⟨flight, hflight, hkey⟩
  · exact inv_start hinv hlive hinflight

end call

/-! ### Every event -/

section step

variable {policy : Policy V} {now : ℕ} {s t : SingleFlight V} {event : FlightEvent V}

/-- **Every event keeps the invariant.** -/
theorem FlightStep.inv (hstep : FlightStep policy now s event t) (hinv : s.Inv policy now) :
    t.Inv policy now := by
  cases hstep with
  | call key => exact inv_call hinv
  | @complete id key outcome h =>
      exact Advances.inv ⟨h, rfl, Stage.keeps_of_stored rfl (Or.inl rfl), rfl, rfl, rfl,
        Or.inl ⟨rfl, rfl⟩⟩ hinv
  | @thenOk id key value h =>
      exact Advances.inv ⟨h, rfl, Stage.keeps_of_stored rfl (Or.inl rfl), rfl, rfl, rfl,
        Or.inr ⟨value, rfl, rfl⟩⟩ hinv
  | @thenError id key e h =>
      exact Advances.inv ⟨h, rfl, Stage.keeps_of_stored rfl (Or.inl rfl), rfl, rfl, rfl,
        Or.inl ⟨rfl, rfl⟩⟩ hinv
  | @runCatch id key outcome ranAt h =>
      have hstored : (Stage.caught outcome ranAt).stored =
          (Stage.thenRun outcome ranAt).stored := by
        cases outcome <;> rfl
      exact Advances.inv ⟨h, rfl, Stage.keeps_of_stored rfl (Or.inr hstored), rfl, rfl, rfl,
        Or.inl ⟨rfl, hstored⟩⟩ hinv
  | @runFinally id key outcome ranAt h =>
      have hstored : (Stage.settled outcome ranAt).stored =
          (Stage.caught outcome ranAt).stored := by
        cases outcome <;> rfl
      exact Advances.inv ⟨h, rfl, Stage.keeps_of_stored rfl (Or.inr hstored), rfl, rfl, rfl,
        Or.inl ⟨rfl, hstored⟩⟩ hinv
  | @deliver i id key key' calledAt ranAt outcome hcall h =>
      refine { hinv with calls := fun c hc => ?_ }
      obtain ⟨j, hj, rfl⟩ := List.mem_iff_getElem.mp hc
      rw [List.getElem_modify]
      split
      · next heq =>
          subst heq
          -- the request the caller waits for is one for its key
          have hmem := List.mem_of_getElem? hcall
          obtain ⟨flight, hflight, hkey⟩ := hinv.calls _ hmem
          obtain rfl := Option.some.inj (h.symm.trans hflight)
          obtain ⟨_, hget⟩ := List.getElem?_eq_some_iff.mp hcall
          rw [hget]
          exact ⟨outcome, ranAt, hkey ▸ h, rfl⟩
      · exact hinv.calls _ (List.getElem_mem _)

/-- Time passes. -/
theorem SingleFlight.Inv.mono (hinv : s.Inv policy now) {later : ℕ} (hle : now ≤ later) :
    s.Inv policy later where
  owned := hinv.owned
  registered := hinv.registered
  last := hinv.last
  cached key entry hentry := by
    obtain ⟨storedAt, hstored, hnow, htime⟩ := hinv.cached key entry hentry
    exact ⟨storedAt, hstored, hnow.trans hle, htime⟩
  expired id flight hflight hlast hnone entry hentry :=
    (hinv.expired id flight hflight hlast hnone entry hentry).trans hle
  calls := hinv.calls

theorem SingleFlight.inv_init : (SingleFlight.init V).Inv policy now where
  owned _ _ h := by cases h
  registered _ _ h := by cases h
  last _ _ h := by cases h
  cached _ _ h := by cases h
  expired _ _ h := by cases h
  calls _ h := by cases h

/-! ### What it says about requests in flight -/

/-- **At most one request for a key** has not settled. -/
theorem SingleFlight.Inv.unsettled_unique (hinv : s.Inv policy now) {i j : ℕ} {f g : Flight V}
    (hf : s.flights[i]? = some f) (hg : s.flights[j]? = some g) (hkey : f.key = g.key)
    (hfopen : f.stage.isSettled = false) (hgopen : g.stage.isSettled = false) : i = j :=
  Option.some.inj ((hinv.registered i f hf hfopen).symm.trans
    (hkey ▸ hinv.registered j g hg hgopen))

/-- **A cleanup removes its own entry** and no other. -/
theorem FlightStep.runFinally_own (hinv : s.Inv policy now) {id : ℕ}
    (hstep : FlightStep policy now s (.runFinally id) t) :
    ∃ key, s.inflight.get key = some id ∧
      ∀ k, t.inflight.get k = if k = key then none else s.inflight.get k := by
  cases hstep with
  | @runFinally _ key outcome ranAt h =>
      exact ⟨key, hinv.registered id _ h rfl, fun k => JsMap.get_delete _ _ _⟩

/-- **After a failure the next caller starts afresh**: once the last request for a key has failed
and settled, a call for the key starts a request. -/
theorem SingleFlight.Inv.call_fresh (hinv : s.Inv policy now) {id : ℕ} {key : String} {e : Thrown}
    {ranAt : ℕ} (h : s.flights[id]? = some { key, stage := .settled (.error e) ranAt })
    (hlast : s.IsLast id key) :
    (s.call now key).flights = s.flights ++ [{ key, stage := .pending }] ∧
      (s.call now key).calls = s.calls ++
        [{ key, calledAt := now, answer := .awaiting s.flights.length }] := by
  have hlive : s.cache.live now key = none :=
    InMemoryCache.live_eq_none.mpr (hinv.expired id _ h hlast rfl)
  have hinflight : s.inflight.get key = none := by
    cases hget : s.inflight.get key with
    | none => rfl
    | some id' =>
        obtain ⟨flight, hflight, hkey, hopen⟩ := hinv.owned key id' hget
        -- a request that has not settled would be the last one
        have hle := hinv.last id' flight hflight hopen id _ h hkey.symm
        have hge := hlast id' flight hflight hkey
        obtain rfl : id = id' := le_antisymm hle hge
        obtain rfl := Option.some.inj (h.symm.trans hflight)
        cases hopen
  rcases call_cases s now key with ⟨value, hhit, -⟩ | ⟨id', -, hjoin, -⟩ | ⟨-, -, hcall⟩
  · cases hlive.symm.trans hhit
  · cases hinflight.symm.trans hjoin
  · rw [hcall]
    exact ⟨rfl, rfl⟩

end step

end invariant

end GuardianStake.Tron
