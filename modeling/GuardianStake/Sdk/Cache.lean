import GuardianStake.Sdk.Js

/-!
# The in-memory cache

`cache/in-memory-cache.ts`: a `Map` of values with the time each expires at. Every operation takes
the time `Date.now()` returns in it. Times and TTLs are of any kind that is ordered and can be
added; the services use whole milliseconds.

* `InMemoryCache.live` — the value of a key at a time, if it has one that is not expired.
* `InMemoryCache.get_fst`, `InMemoryCache.has_eq` — what the two reads return; `get` also drops an
  expired entry.
* `InMemoryCache.store_get_get`, `InMemoryCache.store_get_set` — what the calls leave.
-/

namespace GuardianStake.Sdk

/-- Source: `cache/cache-entry.ts`, `CacheEntry`. -/
structure CacheEntry (T V : Type) where
  value : V
  expirationInMillis : T
  deriving DecidableEq, Repr

/-- Source: `cache/in-memory-cache.ts`, `createInMemoryCache`: what the closure holds. -/
structure InMemoryCache (T K V : Type) where
  store : JsMap K (CacheEntry T V)
  defaultTtlMs : T

/-- The cache of the services, in whole milliseconds. -/
abbrev Cache (K V : Type) := InMemoryCache ℕ K V

namespace InMemoryCache

variable {T K V : Type} [DecidableEq K]

/-! ## The code -/

/-- `createInMemoryCache(defaultTtlMs)`. -/
def create (K V : Type) (defaultTtlMs : T) : InMemoryCache T K V where
  store := JsMap.empty
  defaultTtlMs := defaultTtlMs

/-- `set(key, value, ttlMs)`. -/
def set [Add T] (cache : InMemoryCache T K V) (now : T) (key : K) (value : V)
    (ttlMs : Option T) : InMemoryCache T K V :=
  { cache with
    store := cache.store.set key
      { value, expirationInMillis := now + ttlMs.getD cache.defaultTtlMs } }

/-- `get(key)`. -/
def get [LinearOrder T] (cache : InMemoryCache T K V) (now : T) (key : K) :
    Option V × InMemoryCache T K V :=
  match cache.store.get key with
  | none => (none, cache)
  | some entry =>
      if entry.expirationInMillis ≤ now then
        (none, { cache with store := cache.store.delete key })
      else (some entry.value, cache)

/-- `delete(key)`. -/
def delete (cache : InMemoryCache T K V) (key : K) : Bool × InMemoryCache T K V :=
  (cache.store.has key, { cache with store := cache.store.delete key })

/-- `has(key)`. -/
def has [LinearOrder T] (cache : InMemoryCache T K V) (now : T) (key : K) : Bool :=
  match cache.store.get key with
  | none => false
  | some entry => now < entry.expirationInMillis

/-- `clear()`. -/
def clear (cache : InMemoryCache T K V) : InMemoryCache T K V :=
  { cache with store := JsMap.empty }

/-- `size()`. -/
def size (cache : InMemoryCache T K V) : ℕ := cache.store.entries.length

end InMemoryCache

/-- A cache of the services that has just been created. -/
def createInMemoryCache (K V : Type) (defaultTtlMs : ℕ := 180000) : Cache K V :=
  InMemoryCache.create K V defaultTtlMs

namespace InMemoryCache

variable {T K V : Type} [DecidableEq K] [LinearOrder T] {cache : InMemoryCache T K V} {now : T}
  {key key' : K} {value : V} {entry : CacheEntry T V}

/-! ## What the cache holds -/

/-- The value of a key at a time, unless it is expired. -/
def live (cache : InMemoryCache T K V) (now : T) (key : K) : Option V :=
  (cache.store.get key).bind fun entry =>
    if entry.expirationInMillis ≤ now then none else some entry.value

/-- What `get` returns. -/
theorem get_fst (cache : InMemoryCache T K V) (now : T) (key : K) :
    (cache.get now key).1 = cache.live now key := by
  unfold get live
  cases cache.store.get key with
  | none => rfl
  | some entry =>
      simp only [Option.bind_some]
      split <;> rfl

/-- What `has` returns. -/
theorem has_eq (cache : InMemoryCache T K V) (now : T) (key : K) :
    cache.has now key = (cache.live now key).isSome := by
  unfold has live
  cases cache.store.get key with
  | none => rfl
  | some entry =>
      simp only [Option.bind_some]
      split
      · next h => simpa using h
      · next h => simpa using h

/-- What is live is stored, for longer than now. -/
theorem live_eq_some :
    cache.live now key = some value ↔ ∃ entry, cache.store.get key = some entry ∧
      entry.value = value ∧ now < entry.expirationInMillis := by
  unfold live
  cases cache.store.get key with
  | none => simp
  | some entry =>
      simp only [Option.bind_some, Option.some.injEq, exists_eq_left']
      split
      · next h => simp [not_lt.mpr h]
      · next h => simp [not_le.mp h]

/-- What is not live is not stored, or expired. -/
theorem live_eq_none :
    cache.live now key = none ↔ ∀ entry, cache.store.get key = some entry →
      entry.expirationInMillis ≤ now := by
  unfold live
  cases cache.store.get key with
  | none => simp
  | some entry => simp

/-- Reading leaves every entry, but for an expired one under the key that is read. -/
theorem store_get_get (cache : InMemoryCache T K V) (now : T) (key key' : K) :
    (cache.get now key).2.store.get key' =
      if key' = key ∧ cache.live now key = none then none else cache.store.get key' := by
  unfold get live
  cases hentry : cache.store.get key with
  | none =>
      simp only [Option.bind_none, and_true]
      split
      · next heq => rw [heq, hentry]
      · rfl
  | some entry =>
      simp only [Option.bind_some]
      split
      · simp only [JsMap.get_delete, and_true]
      · simp

/-- Reading adds no entry. -/
theorem store_get_of_get (h : (cache.get now key).2.store.get key' = some entry) :
    cache.store.get key' = some entry := by
  rw [store_get_get] at h
  split at h
  · cases h
  · exact h

omit [LinearOrder T] in
/-- What is stored after a value was set. -/
theorem store_get_set [Add T] (cache : InMemoryCache T K V) (now : T) (key key' : K) (value : V)
    (ttlMs : Option T) :
    (cache.set now key value ttlMs).store.get key' =
      if key' = key then
        some { value, expirationInMillis := now + ttlMs.getD cache.defaultTtlMs }
      else cache.store.get key' :=
  JsMap.get_set _ _ _ _

end InMemoryCache

end GuardianStake.Sdk
