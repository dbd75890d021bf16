import Mathlib

/-!
# Errors of the SDK

What a call of the SDK can throw. The typed hierarchy of `errors.ts` keeps its classes and codes;
exceptions of the runtime and of third-party libraries, which the SDK lets through, are
`Thrown.foreign`. A fallible function returns `Result`.
-/

namespace GuardianStake.Sdk

/-- Codes of `ValidationError`. Source: `entity/errors.ts`, `ValidationErrorCode`. -/
inductive ValidationErrorCode
  | invalidAddress
  | invalidAmount
  | invalidNonce
  | invalidFee
  | invalidPrivateKey
  | invalidPage
  | invalidPageSize
  | unsupportedOperation
  | invalidValidator
  | invalidResource
  deriving DecidableEq, Repr

/-- Codes of `SigningError`. Source: `entity/errors.ts`, `SigningErrorCode`. -/
inductive SigningErrorCode
  | invalidSigningArgs
  | invalidFeeType
  | unsupportedTransactionType
  | signatureMismatch
  | missingAccount
  deriving DecidableEq, Repr

/-- An exception that leaves a call: a `ValidationError`, a `SigningError`, an `ApiError`, or one
raised by the runtime or a third-party library. Source: `entity/errors.ts`; `rpc/rpc-error.ts`. -/
inductive Thrown
  | validation (code : ValidationErrorCode) (message : String)
  | signing (code : SigningErrorCode) (message : String)
  | api (message : String)
  | foreign (message : String)
  deriving DecidableEq, Repr

/-- The outcome of a call: a value or an exception. -/
abbrev Result (α : Type) := Except Thrown α

/-- Two results are compared by what they hold, so runs on concrete inputs can be decided. -/
instance instDecidableEqOutcome {ε α : Type} [DecidableEq ε] [DecidableEq α] :
    DecidableEq (Except ε α)
  | .ok a, .ok b => decidable_of_iff (a = b) (by simp)
  | .error a, .error b => decidable_of_iff (a = b) (by simp)
  | .ok _, .error _ => isFalse (by simp)
  | .error _, .ok _ => isFalse (by simp)

section bind

variable {ε α β : Type}

/-- A sequence succeeds iff its first call does and the rest does on its value. -/
theorem bind_eq_ok {x : Except ε α} {f : α → Except ε β} {b : β} :
    x >>= f = .ok b ↔ ∃ a, x = .ok a ∧ f a = .ok b := by
  cases x <;> simp [bind, Except.bind]

/-- A guard that throws lets the rest run iff its condition is false. -/
theorem guard_eq_ok {p : Prop} [Decidable p] {e : Thrown} {f : PUnit → Result β} {b : β} :
    (if p then throw e >>= f else f ()) = .ok b ↔ ¬p ∧ f () = .ok b := by
  by_cases h : p <;> simp [h, bind, Except.bind, throw, throwThe, MonadExceptOf.throw]

/-- A list is mapped successfully iff every element is, each to its own result. -/
theorem mapM_eq_ok {f : α → Except ε β} {l : List α} {ys : List β} :
    l.mapM f = .ok ys ↔ List.Forall₂ (fun x y => f x = .ok y) l ys := by
  induction l generalizing ys with
  | nil =>
      rw [List.mapM_nil, List.forall₂_nil_left_iff]
      exact ⟨fun h => (Except.ok.inj h).symm, fun h => h ▸ rfl⟩
  | cons x l ih =>
      rw [List.mapM_cons, bind_eq_ok, List.forall₂_cons_left_iff]
      constructor
      · rintro ⟨y, hy, h⟩
        obtain ⟨zs, hzs, h⟩ := bind_eq_ok.mp h
        exact ⟨y, zs, hy, ih.mp hzs, (Except.ok.inj h).symm⟩
      · rintro ⟨y, zs, hy, hzs, rfl⟩
        exact ⟨y, hy, bind_eq_ok.mpr ⟨zs, ih.mpr hzs, rfl⟩⟩

/-- What a mapping returns is the result of one of its elements. -/
theorem exists_of_mem_mapM {f : α → Except ε β} {l : List α} {ys : List β} (h : l.mapM f = .ok ys)
    {y : β} (hy : y ∈ ys) : ∃ x ∈ l, f x = .ok y := by
  obtain ⟨hlen, heach⟩ := List.forall₂_iff_get.mp (mapM_eq_ok.mp h)
  obtain ⟨i, hi, rfl⟩ := List.mem_iff_getElem.mp hy
  exact ⟨_, List.get_mem l ⟨i, hlen ▸ hi⟩, heach i _ hi⟩

/-- A call that does not throw returns something. -/
theorem exists_eq_ok {x : Except ε α} (h : x.toBool = true) : ∃ a, x = .ok a := by
  cases x with
  | error e => cases h
  | ok a => exact ⟨a, rfl⟩

end bind

end GuardianStake.Sdk
