import GuardianStake.Found.Transition

/-!
# Mapping with bounded concurrency

`mapWithConcurrency` of `services/staking-service.ts`: workers that share a counter take one item
after another, call `fn` on it, wait for the call and write its value into a shared array. A step is
the completion of a call or the resumption of the worker that waited for it, in any order.

* `takeNext_inv` — a turn of a worker's loop starts the next item, if there is one.
* `PoolStep.inv` — what every step preserves: each started call is in progress or has one outcome,
  and each outcome is waiting, written or thrown.
* `PoolStep.stepsLeft` — every step uses up one of two for each item.
* `mapWithConcurrency_run` — **what a run does**, whatever the order.
-/

namespace GuardianStake.Tron

open Found

/-! ## The code -/

section code

variable {α β ε : Type}

/-- Where a worker stands: its call on the item of an index is in progress; the call has completed;
the worker has returned; the call's error has left the worker. -/
inductive Worker (β ε : Type)
  | awaiting (i : ℕ)
  | settled (i : ℕ) (outcome : Except ε β)
  | returned
  | failed (i : ℕ) (error : ε)

/-- The variables the workers share, the workers, and for the record the calls of `fn` and their
outcomes so far. -/
structure Pool (α β ε : Type) where
  nextIndex : ℕ
  results : List (Option β)
  workers : List (Worker β ε)
  calls : List (ℕ × α)
  outcomes : List (ℕ × Except ε β)

/-- One turn of the loop of `worker`, up to its `await` or `return`. -/
def takeNext (items : List α) (s : Pool α β ε) : Pool α β ε × Worker β ε :=
  let i := s.nextIndex
  match items[i]? with
  | none => ({ s with nextIndex := i + 1 }, .returned)
  | some item =>
      ({ s with nextIndex := i + 1, calls := s.calls ++ [(i, item)] }, .awaiting i)

/-- One more worker, run up to its first `await`. -/
def spawn (items : List α) (s : Pool α β ε) : Pool α β ε :=
  let (s, worker) := takeNext items s
  { s with workers := s.workers ++ [worker] }

/-- A `number` other than `NaN`. -/
abbrev Limit := WithBot (WithTop ℚ)

/-- The length `Array.from` makes of a number. -/
def toLength : Limit → ℕ
  | ⊥ => 0
  | (⊤ : WithTop ℚ) => 2 ^ 53 - 1
  | ((q : ℚ) : WithTop ℚ) => min ⌊q⌋.toNat (2 ^ 53 - 1)

/-- The local `workerCount`. -/
def workerCount (limit : Limit) (itemsLength : ℕ) : Limit :=
  max 1 (min limit (itemsLength : ℚ))

/-- Source: `services/staking-service.ts`, `mapWithConcurrency`, up to the `await`s of the
workers. -/
def mapWithConcurrency (items : List α) (limit : Limit) : Pool α β ε :=
  (spawn items)^[toLength (workerCount limit items.length)]
    { nextIndex := 0, results := List.replicate items.length none, workers := [], calls := [],
      outcomes := [] }

/-- What can happen next: the call on the item of an index completes; the worker that waited for it
resumes. -/
inductive PoolEvent (β ε : Type)
  | settle (i : ℕ) (outcome : Except ε β)
  | resume (i : ℕ)

/-- One step of the workers. -/
inductive PoolStep (items : List α) : Pool α β ε → PoolEvent β ε → Pool α β ε → Prop
  | settle {s : Pool α β ε} {ws ws' : List (Worker β ε)} {i : ℕ} (outcome : Except ε β)
      (h : s.workers = ws ++ .awaiting i :: ws') :
      PoolStep items s (.settle i outcome)
        { s with
          workers := ws ++ .settled i outcome :: ws'
          outcomes := s.outcomes ++ [(i, outcome)] }
  | resume {s s' : Pool α β ε} {ws ws' : List (Worker β ε)} {i : ℕ} {value : β}
      {worker : Worker β ε} (h : s.workers = ws ++ .settled i (.ok value) :: ws')
      (hnext : takeNext items { s with results := s.results.set i (some value) } = (s', worker)) :
      PoolStep items s (.resume i) { s' with workers := ws ++ worker :: ws' }
  | throw {s : Pool α β ε} {ws ws' : List (Worker β ε)} {i : ℕ} {error : ε}
      (h : s.workers = ws ++ .settled i (.error error) :: ws') :
      PoolStep items s (.resume i) { s with workers := ws ++ .failed i error :: ws' }

/-- The calls started that have not completed. -/
def inProgress (s : Pool α β ε) : List (ℕ × α) :=
  s.calls.filter fun c => c.1 ∉ s.outcomes.map Prod.fst

/-- The promise of `Promise.all` has resolved: every worker has returned. -/
def Resolved (s : Pool α β ε) : Prop := ∀ worker ∈ s.workers, worker = .returned

/-- It has rejected: a worker has thrown. -/
def Rejected (s : Pool α β ε) : Prop := ∃ i error, .failed i error ∈ s.workers

/-- Every call has completed and no worker is left to resume. -/
def Quiescent (items : List α) (s : Pool α β ε) : Prop :=
  inProgress s = [] ∧ ∀ i t, ¬PoolStep items s (.resume i) t

end code

section spec

variable {α β ε : Type} {items : List α} {s s' t : Pool α β ε} {worker : Worker β ε}
  {ws ws' : List (Worker β ε)} {i : ℕ} {event : PoolEvent β ε}

/-! ### A turn of a worker -/

/-- What a turn does: it starts the next item, or returns when there is none. -/
theorem takeNext_cases (h : takeNext items s = (s', worker)) :
    (∃ item, items[s.nextIndex]? = some item ∧ worker = .awaiting s.nextIndex ∧
      s' = { s with nextIndex := s.nextIndex + 1, calls := s.calls ++ [(s.nextIndex, item)] }) ∨
    (items.length ≤ s.nextIndex ∧ worker = .returned ∧
      s' = { s with nextIndex := s.nextIndex + 1 }) := by
  unfold takeNext at h
  simp only at h
  split at h
  · next hnone =>
      obtain ⟨rfl, rfl⟩ := Prod.mk.inj h
      exact .inr ⟨List.getElem?_eq_none_iff.mp hnone, rfl, rfl⟩
  · next item hitem =>
      obtain ⟨rfl, rfl⟩ := Prod.mk.inj h
      exact .inl ⟨item, hitem, rfl, rfl⟩

/-- What a spawned worker adds. -/
theorem spawn_eq (items : List α) (s : Pool α β ε) :
    ∃ s' worker, takeNext items s = (s', worker) ∧ s'.workers = s.workers ∧
      spawn items s = { s' with workers := s.workers ++ [worker] } := by
  have hturn : takeNext items s = ((takeNext items s).1, (takeNext items s).2) := rfl
  have hworkers : (takeNext items s).1.workers = s.workers := by
    rcases takeNext_cases hturn with ⟨_, -, -, hs⟩ | ⟨-, -, hs⟩
    · rw [hs]
    · rw [hs]
  refine ⟨_, _, hturn, hworkers, ?_⟩
  rw [← hworkers]
  rfl

/-- The indices of the calls some workers wait for. -/
def awaitedIndices (workers : List (Worker β ε)) : List ℕ :=
  workers.filterMap fun
    | .awaiting i => some i
    | _ => none

@[simp] theorem awaitedIndices_append (ws ws' : List (Worker β ε)) :
    awaitedIndices (ws ++ ws') = awaitedIndices ws ++ awaitedIndices ws' :=
  List.filterMap_append

@[simp] theorem awaitedIndices_awaiting (i : ℕ) (ws : List (Worker β ε)) :
    awaitedIndices (.awaiting i :: ws) = i :: awaitedIndices ws := rfl

@[simp] theorem awaitedIndices_settled (i : ℕ) (outcome : Except ε β) (ws : List (Worker β ε)) :
    awaitedIndices (.settled i outcome :: ws) = awaitedIndices ws := rfl

@[simp] theorem awaitedIndices_returned (ws : List (Worker β ε)) :
    awaitedIndices (.returned :: ws) = awaitedIndices ws := rfl

@[simp] theorem awaitedIndices_failed (i : ℕ) (error : ε) (ws : List (Worker β ε)) :
    awaitedIndices (.failed i error :: ws) = awaitedIndices ws := rfl

theorem mem_awaitedIndices {workers : List (Worker β ε)} :
    i ∈ awaitedIndices workers ↔ .awaiting i ∈ workers := by
  unfold awaitedIndices
  rw [List.mem_filterMap]
  constructor
  · rintro ⟨worker, hmem, hworker⟩
    cases worker with
    | awaiting j => exact Option.some.inj hworker ▸ hmem
    | settled j outcome => cases hworker
    | returned => cases hworker
    | failed j error => cases hworker
  · intro hmem
    exact ⟨_, hmem, rfl⟩

/-! ### The invariant -/

/-- Where the outcome of a call is: it waits for its worker, has left it as an exception, or is
written to the results. -/
def Delivered (s : Pool α β ε) (i : ℕ) (outcome : Except ε β) : Prop :=
  .settled i outcome ∈ s.workers ∨ (∃ error, outcome = .error error ∧ .failed i error ∈ s.workers) ∨
    ∃ value, outcome = .ok value ∧ s.results[i]? = some (some value)

/-- **The invariant.** The items have been started in order, each call once; each started call is in
progress or has one outcome; the outcomes are where they should be. -/
structure PoolInv (items : List α) (s : Pool α β ε) : Prop where
  calls_eq : s.calls = (items.take s.nextIndex).zipIdx.map Prod.swap
  started : (awaitedIndices s.workers ++ s.outcomes.map Prod.fst).Perm
    (List.range (min s.nextIndex items.length))
  delivered : ∀ i outcome, (i, outcome) ∈ s.outcomes → Delivered s i outcome
  settled : ∀ i outcome, .settled i outcome ∈ s.workers → (i, outcome) ∈ s.outcomes
  failed : ∀ i error, .failed i error ∈ s.workers → (i, .error error) ∈ s.outcomes
  returned : .returned ∈ s.workers → items.length ≤ s.nextIndex
  length_results : s.results.length = items.length

theorem PoolInv.nodup (h : PoolInv items s) :
    (awaitedIndices s.workers ++ s.outcomes.map Prod.fst).Nodup :=
  h.started.nodup_iff.mpr List.nodup_range

/-- The index of an outcome is that of an item. -/
theorem PoolInv.lt_of_outcome (h : PoolInv items s) {outcome : Except ε β}
    (hmem : (i, outcome) ∈ s.outcomes) : i < items.length := by
  have hrange := h.started.subset (List.mem_append_right _ (List.mem_map_of_mem hmem))
  rw [List.mem_range] at hrange
  omega

/-- A call has one outcome. -/
theorem PoolInv.outcome_unique (h : PoolInv items s) {o o' : Except ε β}
    (ho : (i, o) ∈ s.outcomes) (ho' : (i, o') ∈ s.outcomes) : o = o' := by
  have hnodup : (s.outcomes.map Prod.fst).Nodup := (List.nodup_append.mp h.nodup).2.1
  exact (Prod.mk.inj (List.inj_on_of_nodup_map hnodup ho ho' rfl)).2

/-- A worker that takes a turn keeps the invariant. -/
theorem takeNext_inv (h : PoolInv items { s with workers := ws ++ ws' })
    (hnext : takeNext items s = (s', worker)) :
    PoolInv items { s' with workers := ws ++ worker :: ws' } := by
  -- the workers before stay
  have hsub : ∀ w ∈ ws ++ ws', w ∈ ws ++ worker :: ws' := by
    intro w hw
    rcases List.mem_append.mp hw with hw | hw
    · exact List.mem_append_left _ hw
    · exact List.mem_append_right _ (List.mem_cons_of_mem _ hw)
  have hdelivered : ∀ i outcome, Delivered { s with workers := ws ++ ws' } i outcome →
      Delivered { s with workers := ws ++ worker :: ws' } i outcome := by
    intro i outcome hdel
    rcases hdel with hmem | ⟨error, heq, hmem⟩ | hwritten
    · exact .inl (hsub _ hmem)
    · exact .inr (.inl ⟨error, heq, hsub _ hmem⟩)
    · exact .inr (.inr hwritten)
  have hback : ∀ w, w ≠ worker → w ∈ ws ++ worker :: ws' → w ∈ ws ++ ws' := by
    intro w hne hw
    simpa [hne] using hw
  have hstarted := h.started
  rcases takeNext_cases hnext with ⟨item, hitem, rfl, rfl⟩ | ⟨hle, rfl, rfl⟩
  · have hlt : s.nextIndex < items.length := (List.getElem?_eq_some_iff.mp hitem).1
    refine ⟨?_, ?_, fun i o ho => hdelivered i o (h.delivered i o ho),
      fun i o ho => h.settled i o (hback _ nofun ho), fun i e he => h.failed i e (hback _ nofun he),
      fun hret => ?_, h.length_results⟩
    · show s.calls ++ [(s.nextIndex, item)] = _
      have hcalls : s.calls = _ := h.calls_eq
      rw [hcalls, List.take_add_one, hitem, Option.toList_some, List.zipIdx_append, List.map_append,
        List.length_take, min_eq_left hlt.le]
      simp
    · show (awaitedIndices (ws ++ .awaiting s.nextIndex :: ws') ++ _).Perm
        (List.range (min (s.nextIndex + 1) items.length))
      simp only [awaitedIndices_append, min_eq_left hlt.le] at hstarted
      rw [min_eq_left (Nat.succ_le_of_lt hlt), List.range_succ, awaitedIndices_append,
        awaitedIndices_awaiting]
      refine List.Perm.trans ?_ (hstarted.append_right [s.nextIndex])
      rw [List.append_assoc, List.append_assoc, List.append_assoc, List.cons_append]
      refine List.Perm.append_left _ ?_
      exact (List.perm_append_singleton s.nextIndex _).symm.trans (by simp)
    · exact (h.returned (hback _ nofun hret)).trans (Nat.le_succ _)
  · refine ⟨?_, ?_, fun i o ho => hdelivered i o (h.delivered i o ho),
      fun i o ho => h.settled i o (hback _ nofun ho), fun i e he => h.failed i e (hback _ nofun he),
      fun _ => hle.trans (Nat.le_succ _), h.length_results⟩
    · show s.calls = _
      have hcalls : s.calls = _ := h.calls_eq
      rw [hcalls, List.take_of_length_le hle, List.take_of_length_le (hle.trans (Nat.le_succ _))]
    · show (awaitedIndices (ws ++ .returned :: ws') ++ _).Perm
        (List.range (min (s.nextIndex + 1) items.length))
      simp only [awaitedIndices_append, min_eq_right hle] at hstarted
      rw [min_eq_right (hle.trans (Nat.le_succ _)), awaitedIndices_append, awaitedIndices_returned]
      exact hstarted

/-- One more worker keeps it. -/
theorem spawn_inv (h : PoolInv items s) : PoolInv items (spawn items s) := by
  have hhole : PoolInv items { s with workers := s.workers ++ [] } := by
    rw [List.append_nil]
    exact h
  obtain ⟨s', worker, hnext, -, hspawn⟩ := spawn_eq items s
  rw [hspawn]
  exact takeNext_inv hhole hnext

/-- It holds when all workers have been started. -/
theorem mapWithConcurrency_inv (items : List α) (limit : Limit) :
    PoolInv items (mapWithConcurrency items limit : Pool α β ε) := by
  unfold mapWithConcurrency
  generalize toLength (workerCount limit items.length) = count
  induction count with
  | zero => exact ⟨by simp, by simp [awaitedIndices], nofun, nofun, nofun, nofun, by simp⟩
  | succ count ih =>
      rw [Function.iterate_succ_apply']
      exact spawn_inv ih

/-- Writing the value of a call that has completed, before its worker goes on. -/
theorem write_inv {value : β} (h : PoolInv items s)
    (hworkers : s.workers = ws ++ .settled i (.ok value) :: ws') :
    PoolInv items { s with
      results := s.results.set i (some value)
      workers := ws ++ ws' } := by
  have hsub : ∀ w ∈ ws ++ ws', w ∈ s.workers := by
    intro w hw
    rw [hworkers]
    rcases List.mem_append.mp hw with hw | hw
    · exact List.mem_append_left _ hw
    · exact List.mem_append_right _ (List.mem_cons_of_mem _ hw)
  have houtcome : (i, Except.ok value) ∈ s.outcomes :=
    h.settled i _ (hworkers ▸ List.mem_append_right _ List.mem_cons_self)
  have hlt := h.lt_of_outcome houtcome
  have hstarted := h.started
  refine ⟨h.calls_eq, ?_, fun j o ho => ?_, fun j o ho => h.settled j o (hsub _ ho),
    fun j e he => h.failed j e (hsub _ he), fun hret => h.returned (hsub _ hret), ?_⟩
  · simpa [hworkers] using hstarted
  · by_cases hj : j = i
    · -- the outcome just written
      subst hj
      refine .inr (.inr ⟨value, h.outcome_unique ho houtcome, ?_⟩)
      exact List.getElem?_set_self (h.length_results ▸ hlt)
    · rcases h.delivered j o ho with hmem | ⟨error, heq, hmem⟩ | ⟨v, heq, hv⟩
      · refine .inl ?_
        rw [hworkers] at hmem
        simpa [hj] using hmem
      · refine .inr (.inl ⟨error, heq, ?_⟩)
        rw [hworkers] at hmem
        simpa using hmem
      · exact .inr (.inr ⟨v, heq, (List.getElem?_set_ne (Ne.symm hj)).trans hv⟩)
  · exact List.length_set.trans h.length_results

/-- A call that completes keeps it: its outcome is where it was in progress. -/
theorem settle_inv (h : PoolInv items s) (outcome : Except ε β)
    (hworkers : s.workers = ws ++ .awaiting i :: ws') :
    PoolInv items { s with
      workers := ws ++ .settled i outcome :: ws'
      outcomes := s.outcomes ++ [(i, outcome)] } := by
  have hmem : ∀ w, w ≠ .settled i outcome → w ∈ ws ++ .settled i outcome :: ws' →
      w ∈ s.workers := by
    intro w hne hw
    rw [hworkers]
    rcases List.mem_append.mp hw with hw | hw
    · exact List.mem_append_left _ hw
    · rcases List.mem_cons.mp hw with rfl | hw
      · exact absurd rfl hne
      · exact List.mem_append_right _ (List.mem_cons_of_mem _ hw)
  have hstarted := h.started
  refine ⟨h.calls_eq, ?_, fun j o ho => ?_, fun j o ho => ?_, fun j e he => ?_,
    fun hret => h.returned (hmem _ (by simp) hret), h.length_results⟩
  · simp only [hworkers, awaitedIndices_append, awaitedIndices_awaiting] at hstarted
    simp only [awaitedIndices_append, awaitedIndices_settled, List.map_append, List.map_cons,
      List.map_nil]
    refine List.Perm.trans ?_ hstarted
    rw [List.append_assoc, List.append_assoc, List.cons_append]
    refine List.Perm.append_left _ ?_
    rw [← List.append_assoc]
    exact List.perm_append_singleton i _
  · rcases List.mem_append.mp ho with ho | ho
    · rcases h.delivered j o ho with hw | ⟨error, heq, hw⟩ | hwritten
      · refine .inl ?_
        rw [hworkers] at hw
        simp only [List.mem_append, List.mem_cons, reduceCtorEq, false_or] at hw ⊢
        exact hw.imp_right .inr
      · refine .inr (.inl ⟨error, heq, ?_⟩)
        rw [hworkers] at hw
        simpa using hw
      · exact .inr (.inr hwritten)
    · obtain ⟨rfl, rfl⟩ := Prod.mk.inj (List.mem_singleton.mp ho)
      exact .inl (List.mem_append_right _ List.mem_cons_self)
  · by_cases heq : (.settled j o : Worker β ε) = .settled i outcome
    · obtain ⟨rfl, rfl⟩ := Worker.settled.inj heq
      exact List.mem_append_right _ List.mem_cons_self
    · exact List.mem_append_left _ (h.settled j o (hmem _ heq ho))
  · exact List.mem_append_left _ (h.failed j e (hmem _ (by simp) he))

/-- A worker that throws keeps it: the outcome leaves with the error. -/
theorem throw_inv {error : ε} (h : PoolInv items s)
    (hworkers : s.workers = ws ++ .settled i (.error error) :: ws') :
    PoolInv items { s with workers := ws ++ .failed i error :: ws' } := by
  have houtcome : (i, Except.error error) ∈ s.outcomes :=
    h.settled i _ (hworkers ▸ List.mem_append_right _ List.mem_cons_self)
  have hstarted := h.started
  refine ⟨h.calls_eq, by simpa [hworkers] using hstarted, fun j o ho => ?_, fun j o ho => ?_,
    fun j e he => ?_, fun hret => ?_, h.length_results⟩
  · rcases h.delivered j o ho with hw | ⟨error', heq, hw⟩ | hwritten
    · rw [hworkers] at hw
      by_cases hsame : (.settled j o : Worker β ε) = .settled i (.error error)
      · obtain ⟨rfl, rfl⟩ := Worker.settled.inj hsame
        exact .inr (.inl ⟨error, rfl, List.mem_append_right _ List.mem_cons_self⟩)
      · refine .inl ?_
        simpa [hsame] using hw
    · refine .inr (.inl ⟨error', heq, ?_⟩)
      rw [hworkers] at hw
      simp only [List.mem_append, List.mem_cons, reduceCtorEq, false_or] at hw ⊢
      exact hw.imp_right .inr
    · exact .inr (.inr hwritten)
  · refine h.settled j o ?_
    rw [hworkers]
    simp only [List.mem_append, List.mem_cons, reduceCtorEq, false_or] at ho ⊢
    exact ho.imp_right .inr
  · by_cases heq : (.failed j e : Worker β ε) = .failed i error
    · obtain ⟨rfl, rfl⟩ := Worker.failed.inj heq
      exact houtcome
    · refine h.failed j e ?_
      rw [hworkers]
      simpa [heq] using he
  · refine h.returned ?_
    rw [hworkers]
    simpa using hret

/-- **Every step preserves the invariant.** -/
theorem PoolStep.inv (h : PoolInv items s) (hstep : PoolStep items s event t) :
    PoolInv items t := by
  cases hstep with
  | settle outcome hworkers => exact settle_inv h outcome hworkers
  | resume hworkers hnext => exact takeNext_inv (write_inv h hworkers) hnext
  | throw hworkers => exact throw_inv h hworkers

/-! ### Counting -/

/-- The steps still ahead of a worker with its current call. -/
def Worker.stepsLeft : Worker β ε → ℕ
  | .awaiting _ => 2
  | .settled .. => 1
  | .returned => 0
  | .failed .. => 0

/-- The steps still ahead of all workers: two for each item not started, and those of the calls. -/
def stepsLeft (items : List α) (s : Pool α β ε) : ℕ :=
  2 * (items.length - s.nextIndex) + (s.workers.map Worker.stepsLeft).sum

/-- A turn neither adds nor removes steps. -/
theorem takeNext_stepsLeft (hnext : takeNext items s = (s', worker)) :
    2 * (items.length - s'.nextIndex) + worker.stepsLeft = 2 * (items.length - s.nextIndex) := by
  rcases takeNext_cases hnext with ⟨item, hitem, rfl, rfl⟩ | ⟨hle, rfl, rfl⟩
  · have hlt := (List.getElem?_eq_some_iff.mp hitem).1
    simp only [Worker.stepsLeft]
    omega
  · simp only [Worker.stepsLeft]
    omega

/-- **Every step uses up one.** -/
theorem PoolStep.stepsLeft (hstep : PoolStep items s event t) :
    stepsLeft items t + 1 = stepsLeft items s := by
  unfold Tron.stepsLeft
  cases hstep with
  | settle outcome hworkers =>
      simp only [hworkers, List.map_append, List.map_cons, List.sum_append, List.sum_cons,
        Worker.stepsLeft]
      omega
  | resume hworkers hnext =>
      have hturn := takeNext_stepsLeft hnext
      simp only [hworkers, List.map_append, List.map_cons, List.sum_append, List.sum_cons,
        Worker.stepsLeft] at hturn ⊢
      omega
  | throw hworkers =>
      simp only [hworkers, List.map_append, List.map_cons, List.sum_append, List.sum_cons,
        Worker.stepsLeft]
      omega

/-- There are `count` workers after `count` were spawned, and two steps ahead for each item. -/
theorem iterate_spawn (items : List α) (count : ℕ) (hworkers : s.workers = []) :
    ((spawn items)^[count] s).workers.length = count ∧
      stepsLeft items ((spawn items)^[count] s) = stepsLeft items s := by
  induction count with
  | zero => exact ⟨by simp [hworkers], rfl⟩
  | succ count ih =>
      rw [Function.iterate_succ_apply']
      obtain ⟨s', worker, hnext, -, hspawn⟩ := spawn_eq items ((spawn items)^[count] s)
      have hturn := takeNext_stepsLeft hnext
      rw [hspawn]
      refine ⟨by simp [ih.1], ?_⟩
      rw [← ih.2]
      unfold Tron.stepsLeft
      simp only [List.map_append, List.sum_append, List.map_singleton, List.sum_singleton]
      omega

/-- Steps keep the number of workers. -/
theorem PoolStep.length_workers (hstep : PoolStep items s event t) :
    t.workers.length = s.workers.length := by
  cases hstep with
  | settle outcome hworkers => simp [hworkers]
  | resume hworkers hnext => simp [hworkers]
  | throw hworkers => simp [hworkers]

/-- The calls started are those of the first items. -/
theorem PoolInv.map_fst_calls (h : PoolInv items s) :
    s.calls.map Prod.fst = List.range (min s.nextIndex items.length) := by
  rw [h.calls_eq, List.map_map, List.range_eq_range', ← List.length_take]
  exact List.zipIdx_map_snd 0 _

/-- A call is one of `fn` on the item of its index. -/
theorem PoolInv.item_of_call (h : PoolInv items s) {c : ℕ × α} (hc : c ∈ s.calls) :
    items[c.1]? = some c.2 := by
  rw [h.calls_eq] at hc
  obtain ⟨⟨item, i⟩, hmem, rfl⟩ := List.mem_map.mp hc
  have htake := List.mem_zipIdx_iff_getElem?.mp hmem
  rw [List.getElem?_take] at htake
  split at htake
  · exact htake
  · cases htake

/-- A call is in progress iff a worker waits for it. -/
theorem PoolInv.mem_inProgress_iff (h : PoolInv items s) :
    i ∈ (inProgress s).map Prod.fst ↔ .awaiting i ∈ s.workers := by
  rw [← mem_awaitedIndices]
  have hfst : i ∈ (inProgress s).map Prod.fst ↔
      i ∈ s.calls.map Prod.fst ∧ i ∉ s.outcomes.map Prod.fst := by
    simp only [inProgress, List.mem_map, List.mem_filter, decide_eq_true_eq]
    constructor
    · rintro ⟨c, ⟨hc, hout⟩, rfl⟩
      exact ⟨⟨c, hc, rfl⟩, hout⟩
    · rintro ⟨⟨c, hc, rfl⟩, hout⟩
      exact ⟨c, ⟨hc, hout⟩, rfl⟩
  rw [hfst, h.map_fst_calls, ← h.started.mem_iff, List.mem_append]
  constructor
  · rintro ⟨hin, hout⟩
    exact hin.resolve_right hout
  · intro hawaited
    exact ⟨.inl hawaited, fun hout => (List.nodup_append.mp h.nodup).2.2 i hawaited i hout rfl⟩

/-- No more calls are in progress than there are workers. -/
theorem PoolInv.length_inProgress_le (h : PoolInv items s) :
    (inProgress s).length ≤ s.workers.length := by
  have hnodup : ((inProgress s).map Prod.fst).Nodup := by
    refine List.Nodup.sublist (List.filter_sublist.map Prod.fst) ?_
    rw [h.map_fst_calls]
    exact List.nodup_range
  have hsub : (inProgress s).map Prod.fst ⊆ awaitedIndices s.workers := fun i hi =>
    mem_awaitedIndices.mpr (h.mem_inProgress_iff.mp hi)
  calc (inProgress s).length = ((inProgress s).map Prod.fst).length := (List.length_map _).symm
    _ ≤ (awaitedIndices s.workers).length := (List.subperm_of_subset hnodup hsub).length_le
    _ ≤ s.workers.length := List.length_filterMap_le _ _

/-! ### The number of workers -/

/-- A length does not exceed the number it is made of. -/
theorem toLength_le {x : Limit} (hx : 0 ≤ x) : ((toLength x : ℚ) : Limit) ≤ x := by
  match x with
  | ⊥ => exact absurd hx (by decide)
  | (⊤ : WithTop ℚ) => exact le_top
  | ((q : ℚ) : WithTop ℚ) =>
      have hq : (0 : ℚ) ≤ q := by exact_mod_cast hx
      have hfloor : ((⌊q⌋.toNat : ℤ) : ℚ) ≤ q := by
        rw [Int.toNat_of_nonneg (Int.floor_nonneg.mpr hq)]
        exact Int.floor_le q
      have hle : ((min ⌊q⌋.toNat (2 ^ 53 - 1) : ℕ) : ℚ) ≤ q :=
        (Nat.cast_le.mpr (min_le_left _ _)).trans (by exact_mod_cast hfloor)
      exact WithBot.coe_le_coe.mpr (WithTop.coe_le_coe.mpr hle)

/-- From one on it is at least one. -/
theorem one_le_toLength {x : Limit} (hx : 1 ≤ x) : 1 ≤ toLength x := by
  match x with
  | ⊥ => exact absurd hx (by decide)
  | (⊤ : WithTop ℚ) => decide
  | ((q : ℚ) : WithTop ℚ) =>
      have hq : (1 : ℚ) ≤ q := by exact_mod_cast hx
      have hfloor : (1 : ℤ) ≤ ⌊q⌋ := Int.le_floor.mpr (by exact_mod_cast hq)
      have hnat : 1 ≤ ⌊q⌋.toNat := by omega
      exact le_min hnat (by norm_num)

/-! ### Runs -/

/-- When everything has come to rest, each worker has returned or thrown. -/
theorem PoolInv.quiescent_cases (h : PoolInv items s) (hrest : Quiescent items s)
    (hworker : worker ∈ s.workers) :
    worker = .returned ∨ ∃ i error, worker = .failed i error := by
  obtain ⟨hidle, hstuck⟩ := hrest
  cases worker with
  | awaiting i =>
      have hmem := h.mem_inProgress_iff.mpr hworker
      rw [hidle] at hmem
      exact absurd hmem List.not_mem_nil
  | settled i outcome =>
      obtain ⟨ws, ws', hsplit⟩ := List.append_of_mem hworker
      cases outcome with
      | error error => exact absurd (.throw hsplit) (hstuck i _)
      | ok value => exact absurd (.resume hsplit rfl) (hstuck i _)
  | returned => exact .inl rfl
  | failed i error => exact .inr ⟨i, error, rfl⟩

/-- When the promise has resolved, every item has been processed. -/
theorem PoolInv.of_resolved (h : PoolInv items s) (hne : s.workers ≠ []) (hres : Resolved s) :
    s.calls = items.zipIdx.map Prod.swap ∧
      ∀ i < items.length, ∃ value, (∀ outcome, (i, outcome) ∈ s.outcomes ↔ outcome = .ok value) ∧
        s.results[i]? = some (some value) := by
  obtain ⟨worker, hworker⟩ := List.exists_mem_of_ne_nil _ hne
  have hle := h.returned (hres worker hworker ▸ hworker)
  refine ⟨by rw [h.calls_eq, List.take_of_length_le hle], fun i hi => ?_⟩
  -- the call of the item has an outcome, which can only be in the results
  have hstarted : i ∈ awaitedIndices s.workers ++ s.outcomes.map Prod.fst :=
    h.started.mem_iff.mpr (List.mem_range.mpr (by omega))
  rcases List.mem_append.mp hstarted with hawaited | hout
  · cases hres _ (mem_awaitedIndices.mp hawaited)
  · obtain ⟨⟨_, outcome⟩, hmem, rfl⟩ := List.mem_map.mp hout
    rcases h.delivered _ outcome hmem with hw | ⟨error, -, hw⟩ | ⟨value, rfl, hvalue⟩
    · cases hres _ hw
    · cases hres _ hw
    · refine ⟨value, fun o => ⟨fun ho => h.outcome_unique ho hmem, ?_⟩, hvalue⟩
      rintro rfl
      exact hmem

/-- The number of workers once all of them are started, and the steps that are ahead. -/
theorem mapWithConcurrency_workers (items : List α) (limit : Limit) :
    (mapWithConcurrency items limit : Pool α β ε).workers.length =
        toLength (workerCount limit items.length) ∧
      stepsLeft items (mapWithConcurrency items limit : Pool α β ε) = 2 * items.length := by
  obtain ⟨hcount, hsteps⟩ := iterate_spawn items
    (s := ({ nextIndex := 0, results := List.replicate items.length none, workers := [], calls := [],
             outcomes := [] } : Pool α β ε)) (toLength (workerCount limit items.length)) rfl
  refine ⟨hcount, ?_⟩
  unfold mapWithConcurrency
  rw [hsteps]
  simp [stepsLeft]

section run

variable {limit : Limit} {l : List (PoolEvent β ε × Pool α β ε)}

/-- The invariant and the number of workers, in every state of a run. -/
theorem inv_of_run (hrun : Run (PoolStep items) (mapWithConcurrency items limit) l)
    (hs : lastState (mapWithConcurrency items limit) l = s) :
    PoolInv items s ∧ s.workers.length = toLength (workerCount limit items.length) := by
  subst hs
  constructor
  · exact hrun.invariant_lastState (fun _ _ _ h hstep => PoolStep.inv h hstep)
      (mapWithConcurrency_inv items limit)
  · exact hrun.invariant_lastState
      (P := fun s => s.workers.length = toLength (workerCount limit items.length))
      (fun _ _ _ h hstep => hstep.length_workers.trans h) (mapWithConcurrency_workers items limit).1

/-- There always is a worker. -/
theorem workers_ne_nil (hworkers : s.workers.length = toLength (workerCount limit items.length)) :
    s.workers ≠ [] := by
  intro hnil
  have hpos := one_le_toLength (x := workerCount limit items.length) (le_max_left _ _)
  rw [← hworkers, hnil] at hpos
  simp at hpos

/-- When all calls give what a function gives for their items, so do the results. -/
theorem results_of_resolved {f : α → β}
    (hrun : Run (PoolStep items) (mapWithConcurrency items limit) l)
    (hs : lastState (mapWithConcurrency items limit) l = s)
    (hf : ∀ i item outcome, items[i]? = some item → (i, outcome) ∈ s.outcomes →
      outcome = .ok (f item)) (hres : Resolved s) :
    s.results = items.map fun item => some (f item) := by
  obtain ⟨hinv, hworkers⟩ := inv_of_run hrun hs
  obtain ⟨-, hresults⟩ := hinv.of_resolved (workers_ne_nil hworkers) hres
  apply List.ext_getElem?
  intro i
  rw [List.getElem?_map]
  rcases lt_or_ge i items.length with hlt | hge
  · obtain ⟨value, houtcome, hvalue⟩ := hresults i hlt
    have hitem : items[i]? = some items[i] := List.getElem?_eq_getElem hlt
    have hf := hf i _ (.ok value) hitem ((houtcome _).mpr rfl)
    rw [hvalue, hitem, Option.map_some, Except.ok.inj hf]
  · rw [List.getElem?_eq_none hge, List.getElem?_eq_none (hinv.length_results ▸ hge)]
    rfl

/-- **What a run does.** In whatever order the calls complete and the workers resume: never more
than `max 1 (min limit items.length)` calls are in progress, and no index is started twice; the
promise resolves only when `fn` was called on every item once and every result is the value of the
call on its item; when everything has come to rest it has resolved if all calls succeeded, and
rejected if one failed; and it comes to rest after two steps for each item at most. A limit is of an
ordered type, which excludes `NaN`. -/
theorem mapWithConcurrency_run
    (hrun : Run (PoolStep items) (mapWithConcurrency items limit) l)
    (hs : lastState (mapWithConcurrency items limit) l = s) :
    (((inProgress s).length : ℚ) : Limit) ≤ max 1 (min limit (items.length : ℚ)) ∧
      (s.calls.map Prod.fst).Nodup ∧ (∀ c ∈ s.calls, items[c.1]? = some c.2) ∧
      (Resolved s → s.calls = items.zipIdx.map Prod.swap ∧ s.results.length = items.length ∧
        ∀ i < items.length, ∃ value,
          (∀ outcome, (i, outcome) ∈ s.outcomes ↔ outcome = .ok value) ∧
            s.results[i]? = some (some value)) ∧
      (Quiescent items s → (∀ c ∈ s.outcomes, ∃ value, c.2 = .ok value) → Resolved s) ∧
      ((∃ i error, (i, .error error) ∈ s.outcomes) →
        ¬Resolved s ∧ (Quiescent items s → Rejected s)) ∧
      l.length ≤ 2 * items.length := by
  have hone : 1 ≤ workerCount limit items.length := le_max_left _ _
  obtain ⟨hinv, hworkers⟩ := inv_of_run hrun hs
  have hne := workers_ne_nil hworkers
  refine ⟨?_, ?_, fun c hc => hinv.item_of_call hc, fun hres => ?_, fun hrest hok worker hw => ?_,
    ?_, ?_⟩
  · have hle := hinv.length_inProgress_le
    rw [hworkers] at hle
    have hcast : (((inProgress s).length : ℚ) : Limit) ≤
        ((toLength (workerCount limit items.length) : ℚ) : Limit) :=
      WithBot.coe_le_coe.mpr (WithTop.coe_le_coe.mpr (Nat.cast_le.mpr hle))
    exact hcast.trans (toLength_le (zero_le_one.trans hone))
  · rw [hinv.map_fst_calls]
    exact List.nodup_range
  · obtain ⟨hcalls, hresults⟩ := hinv.of_resolved hne hres
    exact ⟨hcalls, hinv.length_results, hresults⟩
  · rcases hinv.quiescent_cases hrest hw with rfl | ⟨i, error, rfl⟩
    · rfl
    · obtain ⟨value, hvalue⟩ := hok _ (hinv.failed i error hw)
      cases hvalue
  · rintro ⟨i, error, hmem⟩
    have hdel := hinv.delivered i _ hmem
    constructor
    · intro hres
      rcases hdel with hw | ⟨_, -, hw⟩ | ⟨value, hvalue, -⟩
      · cases hres _ hw
      · cases hres _ hw
      · cases hvalue
    · intro hrest
      rcases hdel with hw | ⟨error', -, hw⟩ | ⟨value, hvalue, -⟩
      · rcases hinv.quiescent_cases hrest hw with h | ⟨_, _, h⟩
        · cases h
        · cases h
      · exact ⟨i, error', hw⟩
      · cases hvalue
  · have htotal := hrun.length_add_measure fun _ _ _ hstep => hstep.stepsLeft
    have hstart := (mapWithConcurrency_workers (β := β) (ε := ε) items limit).2
    omega

end run

end spec

/-- Three items and two workers: the second call completes first, and its worker goes on. -/
theorem mapWithConcurrency_run_tenfold :
    ∃ s : Pool ℕ ℕ String, Resolved s ∧ s.results = [some 50, some 10, some 40] ∧
      s.calls = [(0, 5), (1, 1), (2, 4)] := by
  have hstart : (mapWithConcurrency [5, 1, 4] 2 : Pool ℕ ℕ String) =
      { nextIndex := 2, results := [none, none, none], workers := [.awaiting 0, .awaiting 1],
        calls := [(0, 5), (1, 1)], outcomes := [] } := by
    rfl
  have hrun : ∃ l, Run (PoolStep [5, 1, 4]) (mapWithConcurrency [5, 1, 4] 2 : Pool ℕ ℕ String) l ∧
      lastState (mapWithConcurrency [5, 1, 4] 2) l =
        { nextIndex := 5, results := [some 50, some 10, some 40]
          workers := [.returned, .returned], calls := [(0, 5), (1, 1), (2, 4)]
          outcomes := [(1, .ok 10), (0, .ok 50), (2, .ok 40)] } := by
    rw [hstart]
    refine ⟨_, .cons (@PoolStep.settle _ _ _ _ _ [.awaiting 0] [] 1 (.ok 10) rfl)
      (.cons (@PoolStep.resume _ _ _ _ _ _ [.awaiting 0] [] 1 10 _ rfl rfl)
      (.cons (@PoolStep.settle _ _ _ _ _ [] [.awaiting 2] 0 (.ok 50) rfl)
      (.cons (@PoolStep.settle _ _ _ _ _ [.settled 0 (.ok 50)] [] 2 (.ok 40) rfl)
      (.cons (@PoolStep.resume _ _ _ _ _ _ [.settled 0 (.ok 50)] [] 2 40 _ rfl rfl)
      (.cons (@PoolStep.resume _ _ _ _ _ _ [] [.returned] 0 50 _ rfl rfl) (.nil _)))))), rfl⟩
  obtain ⟨l, hrun, hlast⟩ := hrun
  obtain ⟨-, -, -, hresolved, -⟩ := mapWithConcurrency_run hrun hlast
  have hres : Resolved ({ nextIndex := 5, results := [some 50, some 10, some 40]
                          workers := [.returned, .returned], calls := [(0, 5), (1, 1), (2, 4)]
                          outcomes := [(1, .ok 10), (0, .ok 50), (2, .ok 40)] } :
      Pool ℕ ℕ String) := by
    intro worker hworker
    simpa using hworker
  exact ⟨_, hres, rfl, (hresolved hres).1⟩

end GuardianStake.Tron
