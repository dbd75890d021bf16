import Mathlib

/-!
# Maps whose entries expire

The general theory of maps whose entries have a deadline, over any linear order of times. Nothing
here names a program.

* `ExpiringMap T κ α` — the value of each key with its deadline; `expire now m` — what is not due.
* `MapEvent`, `ExpiringMap.apply` — what sets, deletes and clears do.
* `ExpiringMap.eagerRun` — a history on a map that drops everything due before each event.
* `expire_apply` — an implementation may drop what is due, or keep it, before any event.
* `LatestSet l key value deadline` — the last event of `l` for `key` sets it.
* `expire_eagerRun` — **what is there after a history**: what was set last and is not due.
-/

namespace GuardianStake.Found

universe u v w

/-- The value of each key, with its deadline. -/
abbrev ExpiringMap (T : Type u) (κ : Type v) (α : Type w) := κ → Option (α × T)

/-- What happens to a map. A read changes nothing. -/
inductive MapEvent (T : Type u) (κ : Type v) (α : Type w)
  | set (key : κ) (value : α) (deadline : T)
  | delete (key : κ)
  | clear
  | read

/-- The events that decide what a key holds. -/
def MapEvent.Touches {T : Type u} {κ : Type v} {α : Type w} (key : κ) : MapEvent T κ α → Prop
  | .set key' _ _ => key' = key
  | .delete key' => key' = key
  | .clear => True
  | .read => False

/-- The last event for a key sets it. -/
def LatestSet {T : Type u} {κ : Type v} {α : Type w} (l : List (MapEvent T κ α)) (key : κ)
    (value : α) (deadline : T) : Prop :=
  ∃ before after, l = before ++ .set key value deadline :: after ∧ ∀ e ∈ after, ¬e.Touches key

namespace ExpiringMap

variable {T : Type u} {κ : Type v} {α : Type w} {m : ExpiringMap T κ α} {key : κ} {value : α}
  {deadline : T}

/-- The map without entries. -/
def empty : ExpiringMap T κ α := fun _ => none

/-- What an event makes of a map. -/
def apply [DecidableEq κ] (m : ExpiringMap T κ α) : MapEvent T κ α → ExpiringMap T κ α
  | .set key value deadline => Function.update m key (some (value, deadline))
  | .delete key => Function.update m key none
  | .clear => empty
  | .read => m

/-! ### What is due -/

section expire

variable [LinearOrder T]

/-- The entries that are not due. -/
def expire (now : T) (m : ExpiringMap T κ α) : ExpiringMap T κ α := fun key =>
  (m key).filter fun e => now < e.2

theorem expire_eq_some_iff {now : T} :
    expire now m key = some (value, deadline) ↔
      m key = some (value, deadline) ∧ now < deadline := by
  rw [expire, Option.filter_eq_some_iff, decide_eq_true_eq]

@[simp] theorem expire_empty (now : T) : expire now (empty : ExpiringMap T κ α) = empty := rfl

/-- What was dropped earlier would be due later. -/
theorem expire_expire {now later : T} (hle : now ≤ later) (m : ExpiringMap T κ α) :
    expire later (expire now m) = expire later m := by
  funext key
  rw [expire, expire, Option.filter_filter, expire]
  congr 1
  funext e
  rw [Bool.and_eq_right_iff_imp]
  simp only [decide_eq_true_eq]
  exact hle.trans_lt

/-- Maps that show the same go on to do so. -/
theorem expire_congr {now later : T} (hle : now ≤ later) {m m' : ExpiringMap T κ α}
    (h : expire now m = expire now m') : expire later m = expire later m' := by
  rw [← expire_expire hle m, h, expire_expire hle]

variable [DecidableEq κ]

theorem expire_update (now : T) (m : ExpiringMap T κ α) (key : κ) (entry : Option (α × T)) :
    expire now (Function.update m key entry) =
      Function.update (expire now m) key (entry.filter fun e => now < e.2) := by
  funext key'
  by_cases hkey : key' = key
  · subst hkey
    simp [expire]
  · simp [expire, hkey]

/-- **Dropping what is due is not observable**: it may be done before an event or left out. -/
theorem expire_apply {now later : T} (hle : now ≤ later) (m : ExpiringMap T κ α)
    (e : MapEvent T κ α) : expire later ((expire now m).apply e) = expire later (m.apply e) := by
  cases e with
  | set key value deadline => simp only [apply, expire_update, expire_expire hle]
  | delete key => simp only [apply, expire_update, expire_expire hle]
  | clear => rfl
  | read => exact expire_expire hle m

/-- Maps that show the same do so after an event. -/
theorem expire_apply_congr {now : T} {m m' : ExpiringMap T κ α} (h : expire now m = expire now m')
    (e : MapEvent T κ α) : expire now (m.apply e) = expire now (m'.apply e) := by
  rw [← expire_apply le_rfl m, h, expire_apply le_rfl]

/-- Maps that show the same do so after any events. -/
theorem expire_foldl_apply_congr {now : T} {m m' : ExpiringMap T κ α}
    (h : expire now m = expire now m') (l : List (MapEvent T κ α)) :
    expire now (l.foldl apply m) = expire now (l.foldl apply m') := by
  induction l generalizing m m' with
  | nil => exact h
  | cons e l ih => exact ih (expire_apply_congr h e)

/-- The map that drops what is due before each event of a history. -/
def eagerRun : ExpiringMap T κ α → List (T × MapEvent T κ α) → ExpiringMap T κ α
  | m, [] => m
  | m, (now, e) :: l => eagerRun ((expire now m).apply e) l

/-- Dropping what is due before each event shows no more and no less than never dropping it. -/
theorem expire_eagerRun_eq (m : ExpiringMap T κ α) {l : List (T × MapEvent T κ α)} {now : T}
    (hpast : ∀ e ∈ l, e.1 ≤ now) :
    expire now (eagerRun m l) = expire now ((l.map Prod.snd).foldl apply m) := by
  induction l generalizing m with
  | nil => rfl
  | cons e l ih =>
      rw [List.forall_mem_cons] at hpast
      rw [eagerRun, ih _ hpast.2, List.map_cons, List.foldl_cons]
      exact expire_foldl_apply_congr (expire_apply hpast.1 m e.2) _

end expire

/-! ### What was set last -/

section latest

variable {l : List (MapEvent T κ α)} {e : MapEvent T κ α}

/-- What one more event makes of it. -/
theorem latestSet_concat :
    LatestSet (l ++ [e]) key value deadline ↔
      e = .set key value deadline ∨ ¬e.Touches key ∧ LatestSet l key value deadline := by
  constructor
  · rintro ⟨before, after, hsplit, hafter⟩
    rcases List.eq_nil_or_concat' after with rfl | ⟨after', e', rfl⟩
    · obtain ⟨-, hlast⟩ := List.append_inj' hsplit rfl
      exact Or.inl (List.singleton_inj.mp hlast)
    · rw [← List.cons_append, ← List.append_assoc] at hsplit
      obtain ⟨rfl, hlast⟩ := List.append_inj' hsplit rfl
      obtain rfl := List.singleton_inj.mp hlast
      exact Or.inr ⟨hafter e (by simp), before, after', rfl,
        fun e' he' => hafter e' (by simp [he'])⟩
  · rintro (rfl | ⟨htouches, before, after, rfl, hafter⟩)
    · exact ⟨l, [], rfl, by simp⟩
    · refine ⟨before, after ++ [e], by simp, fun e' he' => ?_⟩
      rcases List.mem_append.mp he' with he' | he'
      · exact hafter e' he'
      · rwa [List.mem_singleton.mp he']

variable [DecidableEq κ]

/-- What an event leaves under a key. -/
theorem apply_eq_some_iff (m : ExpiringMap T κ α) :
    m.apply e key = some (value, deadline) ↔
      e = .set key value deadline ∨ ¬e.Touches key ∧ m key = some (value, deadline) := by
  cases e with
  | set key' value' deadline' =>
      by_cases hkey : key' = key
      · subst hkey
        simp [apply, MapEvent.Touches]
      · simp [apply, MapEvent.Touches, hkey, Function.update_of_ne (Ne.symm hkey)]
  | delete key' =>
      by_cases hkey : key' = key
      · subst hkey
        simp [apply, MapEvent.Touches]
      · simp [apply, MapEvent.Touches, hkey, Function.update_of_ne (Ne.symm hkey)]
  | clear => simp [apply, MapEvent.Touches, empty]
  | read => simp [apply, MapEvent.Touches]

/-- A map that drops nothing holds what was set last. -/
theorem foldl_apply_eq_some_iff :
    l.foldl apply empty key = some (value, deadline) ↔ LatestSet l key value deadline := by
  induction l using List.reverseRecOn with
  | nil => simp [LatestSet, empty]
  | append_singleton l e ih =>
      rw [List.foldl_append, List.foldl_cons, List.foldl_nil, apply_eq_some_iff, ih,
        latestSet_concat]

variable [LinearOrder T]

/-- **What is there after a history**: what was set last, unless it is due. -/
theorem expire_eagerRun {l : List (T × MapEvent T κ α)} {now : T} (hpast : ∀ e ∈ l, e.1 ≤ now) :
    expire now (eagerRun empty l) key = some (value, deadline) ↔
      LatestSet (l.map Prod.snd) key value deadline ∧ now < deadline := by
  rw [expire_eagerRun_eq empty hpast, expire_eq_some_iff, foldl_apply_eq_some_iff]

end latest

end ExpiringMap

end GuardianStake.Found
