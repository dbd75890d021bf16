import GuardianStake.Found.ExpiringMap
import GuardianStake.Sdk.Cache

/-!
# The in-memory cache over histories

What a history of calls leaves in the cache of `cache/in-memory-cache.ts`, and what the reads return
after it. The type of the times is ordered, which excludes `NaN`.

* `InMemoryCache.entries` — the cache as a map whose entries expire.
* `InMemoryCache.run_eager` — **the refinement**: a history leaves what it leaves in a map that
  drops every entry as soon as it is due.
* `createInMemoryCache_eager` — **what the reads return**, by what was set last; reads change no
  later read.
-/

namespace GuardianStake.Sdk

open Found

/-- A call of the cache. -/
inductive CacheCall (T K V : Type)
  | set (key : K) (value : V) (ttlMs : Option T)
  | get (key : K)
  | has (key : K)
  | delete (key : K)
  | clear
  deriving DecidableEq, Repr

namespace InMemoryCache

variable {T K V : Type} [DecidableEq K] [LinearOrder T] [Add T]

/-- The cache after a call at a time. -/
def step (cache : InMemoryCache T K V) (now : T) : CacheCall T K V → InMemoryCache T K V
  | .set key value ttlMs => cache.set now key value ttlMs
  | .get key => (cache.get now key).2
  | .has _ => cache
  | .delete key => (cache.delete key).2
  | .clear => cache.clear

/-- The cache after a history of calls, each with its time. -/
def run (cache : InMemoryCache T K V) (history : List (T × CacheCall T K V)) :
    InMemoryCache T K V :=
  history.foldl (fun cache call => cache.step call.1 call.2) cache

end InMemoryCache

/-! ## What was set last -/

/-- The calls that end what was set under a key before. -/
def CacheCall.Replaces {T K V : Type} (key : K) : CacheCall T K V → Prop
  | .set key' _ _ => key' = key
  | .delete key' => key' = key
  | .clear => True
  | .get _ => False
  | .has _ => False

/-- The reads. -/
def CacheCall.IsRead {T K V : Type} : CacheCall T K V → Prop
  | .get _ => True
  | .has _ => True
  | _ => False

/-- The latest set of a key since it was last deleted or everything was cleared: its time, its value
and its TTL. -/
def LatestSetOf {T K V : Type} (history : List (T × CacheCall T K V)) (key : K) (setAt : T)
    (value : V) (ttlMs : Option T) : Prop :=
  ∃ before after, history = before ++ (setAt, .set key value ttlMs) :: after ∧
    ∀ call ∈ after, ¬call.2.Replaces key

namespace InMemoryCache

variable {T K V : Type} [DecidableEq K] [LinearOrder T] [Add T]

/-! ## The cache as a map whose entries expire -/

/-- The entries with their deadlines. -/
def entries (cache : InMemoryCache T K V) : ExpiringMap T K V := fun key =>
  (cache.store.get key).map fun entry => (entry.value, entry.expirationInMillis)

/-- A call as an event of the map. -/
def event (defaultTtlMs : T) (call : T × CacheCall T K V) : T × MapEvent T K V :=
  (call.1,
    match call.2 with
    | .set key value ttlMs => .set key value (call.1 + ttlMs.getD defaultTtlMs)
    | .delete key => .delete key
    | .clear => .clear
    | .get _ => .read
    | .has _ => .read)

omit [Add T] in
/-- What `get` returns is what is not due. -/
theorem get_fst_eq_some_iff {cache : InMemoryCache T K V} {now : T} {key : K} {value : V} :
    (cache.get now key).1 = some value ↔
      ∃ deadline, (cache.entries.expire now) key = some (value, deadline) := by
  rw [get_fst, live_eq_some]
  simp only [ExpiringMap.expire_eq_some_iff, entries]
  constructor
  · rintro ⟨entry, hentry, rfl, hnow⟩
    exact ⟨entry.expirationInMillis, by rw [hentry]; rfl, hnow⟩
  · rintro ⟨deadline, hshown, hnow⟩
    obtain ⟨entry, hentry, hpair⟩ := Option.map_eq_some_iff.mp hshown
    obtain ⟨rfl, rfl⟩ := Prod.mk.inj hpair
    exact ⟨entry, hentry, rfl, hnow⟩

omit [Add T] in
/-- What `has` returns is whether `get` would return something. -/
theorem has_eq_true_iff {cache : InMemoryCache T K V} {now : T} {key : K} :
    cache.has now key = true ↔
      ∃ value deadline, (cache.entries.expire now) key = some (value, deadline) := by
  rw [has_eq, Option.isSome_iff_exists, ← get_fst]
  exact exists_congr fun value => get_fst_eq_some_iff

/-- No call changes the default TTL. -/
theorem step_defaultTtlMs (cache : InMemoryCache T K V) (now : T) (call : CacheCall T K V) :
    (cache.step now call).defaultTtlMs = cache.defaultTtlMs := by
  cases call with
  | get key =>
      rw [step, get]
      split
      · rfl
      · split <;> rfl
  | _ => rfl

/-- **A call refines its event**: what it leaves shows the same from its time on. -/
theorem step_eager (cache : InMemoryCache T K V) (now : T) (call : CacheCall T K V) :
    (cache.step now call).entries.expire now =
      (cache.entries.apply (event cache.defaultTtlMs (now, call)).2).expire now := by
  cases call with
  | set key value ttlMs =>
      congr 1
      funext key'
      simp only [step, set, entries, event, ExpiringMap.apply, Function.update_apply,
        JsMap.get_set]
      split <;> rfl
  | get key =>
      simp only [step, event, ExpiringMap.apply, get]
      cases hentry : cache.store.get key with
      | none => rfl
      | some entry =>
          simp only
          split
          · next hdue =>
              -- what is dropped is due
              funext key'
              simp only [ExpiringMap.expire, entries, JsMap.get_delete]
              split
              · next hkey =>
                  rw [hkey, hentry, Option.map_some, Option.filter_some_neg]
                  · rfl
                  · exact decide_eq_false (not_lt.mpr hdue)
              · rfl
          · rfl
  | has key => rfl
  | delete key =>
      congr 1
      funext key'
      simp only [step, delete, entries, event, ExpiringMap.apply, Function.update_apply,
        JsMap.get_delete]
      split <;> rfl
  | clear => rfl

/-- What a history leaves shows the same as what its events make of the entries. -/
theorem run_foldl_apply (cache : InMemoryCache T K V) {history : List (T × CacheCall T K V)}
    {now : T} (hpast : ∀ call ∈ history, call.1 ≤ now) :
    (cache.run history).entries.expire now =
      (((history.map (event cache.defaultTtlMs)).map Prod.snd).foldl ExpiringMap.apply
        cache.entries).expire now := by
  induction history generalizing cache with
  | nil => rfl
  | cons call history ih =>
      rw [List.forall_mem_cons] at hpast
      have hstep := ExpiringMap.expire_congr hpast.1 (cache.step_eager call.1 call.2)
      rw [run, List.foldl_cons, ← run, ih _ hpast.2, step_defaultTtlMs]
      exact ExpiringMap.expire_foldl_apply_congr hstep _

omit [DecidableEq K] [LinearOrder T] in
/-- A property of the times of a history. -/
theorem forall_mem_map_event {P : T → Prop} {history : List (T × CacheCall T K V)}
    (defaultTtlMs : T) (h : ∀ call ∈ history, P call.1) :
    ∀ e ∈ history.map (event defaultTtlMs), P e.1 := by
  intro e he
  obtain ⟨call, hcall, rfl⟩ := List.mem_map.mp he
  exact h call hcall

/-- **The refinement**: what a history leaves shows the same as what it leaves in a map that drops
every entry as soon as it is due. -/
theorem run_eager (cache : InMemoryCache T K V) {history : List (T × CacheCall T K V)} {now : T}
    (hpast : ∀ call ∈ history, call.1 ≤ now) :
    (cache.run history).entries.expire now =
      (cache.entries.eagerRun (history.map (event cache.defaultTtlMs))).expire now := by
  rw [run_foldl_apply _ hpast,
    ExpiringMap.expire_eagerRun_eq _ (forall_mem_map_event (P := (· ≤ now)) _ hpast)]

/-! ## What the reads return -/

variable {history : List (T × CacheCall T K V)} {now : T} {key : K} {value : V} {defaultTtlMs : T}

omit [DecidableEq K] [LinearOrder T] in
/-- The latest set of a key, as a call and as an event. -/
theorem latestSet_event_iff {deadline : T} :
    LatestSet ((history.map (event defaultTtlMs)).map Prod.snd) key value deadline ↔
      ∃ setAt ttlMs, LatestSetOf history key setAt value ttlMs ∧
        deadline = setAt + ttlMs.getD defaultTtlMs := by
  have htouches : ∀ call : T × CacheCall T K V,
      (event defaultTtlMs call).2.Touches key ↔ call.2.Replaces key := by
    rintro ⟨setAt, call⟩
    cases call <;> rfl
  rw [List.map_map]
  constructor
  · rintro ⟨before, after, hsplit, hafter⟩
    obtain ⟨before', rest, rfl, rfl, hrest⟩ := List.map_eq_append_iff.mp hsplit
    obtain ⟨⟨setAt, call⟩, after', rfl, hset, rfl⟩ := List.map_eq_cons_iff.mp hrest
    cases call with
    | set key' value' ttlMs =>
        obtain ⟨rfl, rfl, rfl⟩ := MapEvent.set.inj hset
        refine ⟨setAt, ttlMs, ⟨before', after', rfl, fun call hcall => ?_⟩, rfl⟩
        exact mt (htouches call).mpr (hafter _ (List.mem_map_of_mem hcall))
    | get _ => cases hset
    | has _ => cases hset
    | delete _ => cases hset
    | clear => cases hset
  · rintro ⟨setAt, ttlMs, ⟨before, after, rfl, hafter⟩, rfl⟩
    refine ⟨_, _, by rw [List.map_append, List.map_cons]; rfl, fun e he => ?_⟩
    obtain ⟨call, hcall, rfl⟩ := List.mem_map.mp he
    exact mt (htouches call).mp (hafter call hcall)

/-- What a history leaves in a new cache, until it is due. -/
theorem run_create_eq_some_iff (hpast : ∀ call ∈ history, call.1 ≤ now) {deadline : T} :
    (((create K V defaultTtlMs).run history).entries.expire now) key = some (value, deadline) ↔
      ∃ setAt ttlMs, LatestSetOf history key setAt value ttlMs ∧
        deadline = setAt + ttlMs.getD defaultTtlMs ∧ now < deadline := by
  have hempty : (create K V defaultTtlMs).entries = ExpiringMap.empty := rfl
  rw [run_eager _ hpast, hempty, create,
    ExpiringMap.expire_eagerRun (forall_mem_map_event (P := (· ≤ now)) _ hpast),
    latestSet_event_iff]
  constructor
  · rintro ⟨⟨setAt, ttlMs, hset, hdeadline⟩, hnow⟩
    exact ⟨setAt, ttlMs, hset, hdeadline, hnow⟩
  · rintro ⟨setAt, ttlMs, hset, hdeadline, hnow⟩
    exact ⟨⟨setAt, ttlMs, hset, hdeadline⟩, hnow⟩

/-- A read changes nothing that is shown later. -/
theorem run_read (cache : InMemoryCache T K V) {before after : List (T × CacheCall T K V)}
    {read : T × CacheCall T K V} (hread : read.2.IsRead)
    (hpast : ∀ call ∈ before ++ read :: after, call.1 ≤ now) :
    (cache.run (before ++ read :: after)).entries.expire now =
      (cache.run (before ++ after)).entries.expire now := by
  have hevent : (event cache.defaultTtlMs read).2 = .read := by
    obtain ⟨readAt, call⟩ := read
    cases call with
    | get _ => rfl
    | has _ => rfl
    | set _ _ _ => exact hread.elim
    | delete _ => exact hread.elim
    | clear => exact hread.elim
  have hpast' : ∀ call ∈ before ++ after, call.1 ≤ now := by
    intro call hcall
    apply hpast
    rw [List.mem_append] at hcall ⊢
    exact hcall.imp_right (List.mem_cons_of_mem _)
  rw [run_foldl_apply _ hpast, run_foldl_apply _ hpast']
  simp only [List.map_append, List.map_cons, List.foldl_append, List.foldl_cons, hevent,
    ExpiringMap.apply]

end InMemoryCache

/-- **The cache expires its entries**: after any history of a new cache, `get` returns a value iff
the latest set of the key stored it and its TTL has not passed, `has` is true under the same
condition, and without any one of the earlier reads both would return the same. Times and TTLs are
of a type with a linear order: `NaN`, which has no place in one, is none of them. -/
theorem createInMemoryCache_eager {T K V : Type} [DecidableEq K] [LinearOrder T] [Add T]
    (defaultTtlMs : T) {history : List (T × CacheCall T K V)} {now : T}
    (hpast : ∀ call ∈ history, call.1 ≤ now) (key : K) :
    (∀ value, (((InMemoryCache.create K V defaultTtlMs).run history).get now key).1 = some value ↔
      ∃ setAt ttlMs, LatestSetOf history key setAt value ttlMs ∧
        now < setAt + ttlMs.getD defaultTtlMs) ∧
    (((InMemoryCache.create K V defaultTtlMs).run history).has now key = true ↔
      ∃ setAt value ttlMs, LatestSetOf history key setAt value ttlMs ∧
        now < setAt + ttlMs.getD defaultTtlMs) ∧
    ∀ before read after, history = before ++ read :: after → read.2.IsRead →
      (((InMemoryCache.create K V defaultTtlMs).run history).get now key).1 =
          (((InMemoryCache.create K V defaultTtlMs).run (before ++ after)).get now key).1 ∧
        ((InMemoryCache.create K V defaultTtlMs).run history).has now key =
          ((InMemoryCache.create K V defaultTtlMs).run (before ++ after)).has now key := by
  refine ⟨fun value => ?_, ?_, ?_⟩
  · rw [InMemoryCache.get_fst_eq_some_iff]
    simp only [InMemoryCache.run_create_eq_some_iff hpast]
    constructor
    · rintro ⟨_, setAt, ttlMs, hset, rfl, hnow⟩
      exact ⟨setAt, ttlMs, hset, hnow⟩
    · rintro ⟨setAt, ttlMs, hset, hnow⟩
      exact ⟨_, setAt, ttlMs, hset, rfl, hnow⟩
  · rw [InMemoryCache.has_eq_true_iff]
    simp only [InMemoryCache.run_create_eq_some_iff hpast]
    constructor
    · rintro ⟨value, _, setAt, ttlMs, hset, rfl, hnow⟩
      exact ⟨setAt, value, ttlMs, hset, hnow⟩
    · rintro ⟨setAt, value, ttlMs, hset, hnow⟩
      exact ⟨value, _, setAt, ttlMs, hset, rfl, hnow⟩
  · rintro before read after rfl hread
    have hread := InMemoryCache.run_read (InMemoryCache.create K V defaultTtlMs) hread hpast
    constructor
    · apply Option.ext
      intro value
      simp only [InMemoryCache.get_fst_eq_some_iff, hread]
    · rw [Bool.eq_iff_iff]
      simp only [InMemoryCache.has_eq_true_iff, hread]

/-- Two sets of one key, the second with a TTL of its own, and a read in between. -/
def setTwice : List (ℤ × CacheCall ℤ String String) :=
  [(0, .set "validators" "old" none), (5, .get "validators"),
    (10, .set "validators" "new" (some 3))]

/-- A millisecond before the time of the second set has passed, it is there. -/
theorem createInMemoryCache_eager_setTwice :
    (((InMemoryCache.create String String (180000 : ℤ)).run setTwice).get 12 "validators").1 =
      some "new" := by
  obtain ⟨hget, -, -⟩ :=
    @createInMemoryCache_eager ℤ String String _ _ _ 180000 setTwice 12 (by decide) "validators"
  exact (hget "new").mpr ⟨10, some 3, ⟨setTwice.take 2, [], rfl, by simp⟩, by decide⟩

end GuardianStake.Sdk
