import GuardianStake.Sdk.Doubles
import GuardianStake.Tron.TxBuilder

/-!
# The amounts that reach TronWeb

`buildUnsignedTx` narrows a `bigint` amount to a `number` in three branches. A freeze and an
unfreeze are refused above the safe integers. A vote is refused unless it is a whole number of TRX,
and has no upper bound.

* `buildUnsignedTx_delegate_eq_ok`, `buildUnsignedTx_undelegate_eq_ok` — what an accepted freeze or
  unfreeze passes on: its amount.
* `buildUnsignedTx_vote` — every whole positive number of TRX is accepted as a vote.
* `buildUnsignedTx_denotes_iff` — **when a contract denotes the amount asked for**.
* `buildUnsignedTx_roundedVote` — a vote that is signed as another one.
-/

namespace GuardianStake.Tron

open Sdk Found

/-- The number in a contract denotes an amount: in SUN, or in whole votes of a TRX each. -/
def TronContract.Denotes (amount : ℤ) : TronContract → Prop
  | .freezeBalanceV2 x _ _ | .unfreezeBalanceV2 x _ _ => x = .int amount
  | .vote votes _ =>
      ∃ srAddress count, votes = [(srAddress, .int count)] ∧ count * sunPerTrx = amount
  | .withdrawExpireUnfreeze _ | .withdrawBlockRewards _ => True

/-- A `number` can hold the votes asked for, in a vote for a whole positive number of TRX. -/
def VotesFit : Transaction → Prop
  | .vote base _ =>
      0 < base.amount → sunPerTrx ∣ base.amount →
        Representable 53 (base.amount / sunPerTrx).natAbs ∧
          (base.amount / sunPerTrx).natAbs < 2 ^ 1024
  | _ => True

section branches

variable {base : BaseTransaction} {isMaxAmount : Bool} {validator : Option ValidatorRef}
  {resource : Option String} {stakeAccount : Option String} {ownerAddress : String}
  {contract : TronContract}

/-- A guarded amount converts exactly. -/
theorem toNumber_of_guarded {amount : ℤ} (hpos : 0 < amount) (hmax : ¬maxSafeInteger < amount) :
    toNumber amount = .int amount := by
  apply toNumber_of_safe
  rw [abs_of_pos hpos]
  exact not_lt.mp hmax

/-- **An accepted freeze passes its amount on.** -/
theorem buildUnsignedTx_delegate_eq_ok
    (h : buildUnsignedTx (.delegate base isMaxAmount validator resource) ownerAddress =
      .ok contract) :
    sunPerTrx ≤ base.amount ∧ base.amount ≤ maxSafeInteger ∧
      ∃ r, contract = .freezeBalanceV2 (.int base.amount) r ownerAddress := by
  unfold buildUnsignedTx at h
  obtain ⟨-, h⟩ := guard_eq_ok.mp h
  obtain ⟨r, -, h⟩ := bind_eq_ok.mp h
  obtain ⟨hmin, h⟩ := guard_eq_ok.mp h
  obtain ⟨hmax, h⟩ := guard_eq_ok.mp h
  have hpos : 0 < base.amount := by
    rw [sunPerTrx] at hmin
    omega
  rw [toNumber_of_guarded hpos hmax] at h
  exact ⟨not_lt.mp hmin, not_lt.mp hmax, r, (Except.ok.inj h).symm⟩

/-- **An accepted unfreeze passes its amount on.** -/
theorem buildUnsignedTx_undelegate_eq_ok
    (h : buildUnsignedTx (.undelegate base isMaxAmount validator resource stakeAccount)
      ownerAddress = .ok contract) :
    0 < base.amount ∧ base.amount ≤ maxSafeInteger ∧
      ∃ r, contract = .unfreezeBalanceV2 (.int base.amount) r ownerAddress := by
  unfold buildUnsignedTx at h
  obtain ⟨-, h⟩ := guard_eq_ok.mp h
  obtain ⟨r, -, h⟩ := bind_eq_ok.mp h
  obtain ⟨hmin, h⟩ := guard_eq_ok.mp h
  obtain ⟨hmax, h⟩ := guard_eq_ok.mp h
  rw [toNumber_of_guarded (not_le.mp hmin) hmax] at h
  exact ⟨not_le.mp hmin, not_lt.mp hmax, r, (Except.ok.inj h).symm⟩

/-- **A vote is accepted iff it is for a whole positive number of TRX**, and passes on the number
they are converted to. -/
theorem buildUnsignedTx_vote {validator : ValidatorRef} :
    buildUnsignedTx (.vote base validator) ownerAddress = .ok contract ↔
      0 < base.amount ∧ sunPerTrx ∣ base.amount ∧
        contract = .vote [(validator.address, toNumber (base.amount / sunPerTrx))] ownerAddress := by
  have hwhole : base.amount.tmod sunPerTrx = 0 ↔ sunPerTrx ∣ base.amount :=
    (Int.dvd_iff_tmod_eq_zero).symm
  constructor
  · intro h
    obtain ⟨v, hv, h⟩ := bind_eq_ok.mp h
    obtain rfl : validator = v := Except.ok.inj hv
    obtain ⟨hdvd, h⟩ := guard_eq_ok.mp h
    obtain ⟨hpos, h⟩ := guard_eq_ok.mp h
    have hdvd := hwhole.mp (not_not.mp hdvd)
    rw [Int.tdiv_eq_ediv_of_dvd hdvd] at hpos h
    rw [nonpos_toNumber, decide_eq_true_iff] at hpos
    refine ⟨?_, hdvd, (Except.ok.inj h).symm⟩
    obtain ⟨k, hk⟩ := hdvd
    rw [sunPerTrx] at hk hpos
    omega
  · rintro ⟨hpos, hdvd, rfl⟩
    refine bind_eq_ok.mpr ⟨validator, rfl, ?_⟩
    refine guard_eq_ok.mpr ⟨not_not.mpr (hwhole.mpr hdvd), guard_eq_ok.mpr ⟨?_, ?_⟩⟩
    · rw [Int.tdiv_eq_ediv_of_dvd hdvd, nonpos_toNumber, decide_eq_true_iff]
      obtain ⟨k, hk⟩ := hdvd
      rw [sunPerTrx] at *
      omega
    · rw [Int.tdiv_eq_ediv_of_dvd hdvd]
      rfl

end branches

/-- **When a contract denotes the amount asked for**: always for a freeze and an unfreeze, and for a
vote when a `number` can hold its count. -/
theorem buildUnsignedTx_denotes_iff (tx : Transaction) (ownerAddress : String) :
    (∀ contract, buildUnsignedTx tx ownerAddress = .ok contract → contract.Denotes tx.amount) ↔
      VotesFit tx := by
  cases tx with
  | delegate base isMaxAmount validator resource =>
      refine iff_of_true ?_ trivial
      intro contract h
      obtain ⟨-, -, r, rfl⟩ := buildUnsignedTx_delegate_eq_ok h
      rfl
  | undelegate base isMaxAmount validator resource stakeAccount =>
      refine iff_of_true ?_ trivial
      intro contract h
      obtain ⟨-, -, r, rfl⟩ := buildUnsignedTx_undelegate_eq_ok h
      rfl
  | vote base validator =>
      simp only [buildUnsignedTx_vote, VotesFit, ← toNumber_eq_int_iff]
      constructor
      · intro h hpos hdvd
        obtain ⟨srAddress, count, hvotes, hcount⟩ := h _ ⟨hpos, hdvd, rfl⟩
        simp only [List.cons.injEq, Prod.mk.injEq, and_true] at hvotes
        rw [hvotes.2]
        -- as many votes as there are TRX
        congr 1
        change count * sunPerTrx = base.amount at hcount
        rw [sunPerTrx] at *
        omega
      · rintro hfit contract ⟨hpos, hdvd, rfl⟩
        refine ⟨validator.address, base.amount / sunPerTrx, ?_, Int.ediv_mul_cancel hdvd⟩
        rw [hfit hpos hdvd]
  | claimDelegate base validator index stakeAccount =>
      refine iff_of_true ?_ trivial
      intro contract h
      obtain rfl := Except.ok.inj h
      trivial
  | claimRewards base validator =>
      refine iff_of_true ?_ trivial
      intro contract h
      obtain rfl := Except.ok.inj h
      trivial
  | redelegate base isMaxAmount fromValidator toValidator =>
      refine iff_of_true ?_ trivial
      intro contract h
      cases h

/-- A vote with 2 ^ 53 + 1 TRX is accepted and signed as one with 2 ^ 53. -/
theorem buildUnsignedTx_roundedVote :
    let tx : Transaction := .vote
      { chain := { id := "tron-mainnet", chainId := none }
        amount := (2 ^ 53 + 1) * 1000000
        account := none }
      (.operatorAddress "TSr")
    buildUnsignedTx tx "TOwner" = .ok (.vote [("TSr", .int (2 ^ 53))] "TOwner") ∧
      ¬∀ contract, buildUnsignedTx tx "TOwner" = .ok contract → contract.Denotes tx.amount := by
  intro tx
  have hbuild : buildUnsignedTx tx "TOwner" = .ok (.vote [("TSr", .int (2 ^ 53))] "TOwner") := by
    decide +kernel
  refine ⟨hbuild, ?_⟩
  intro h
  obtain ⟨srAddress, count, hvotes, hcount⟩ := h _ hbuild
  simp only [List.cons.injEq, Prod.mk.injEq, and_true, Number.int.injEq] at hvotes
  obtain ⟨-, rfl⟩ := hvotes
  exact absurd hcount (by decide)

end GuardianStake.Tron
