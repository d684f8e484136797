import Mathlib.Data.List.Forall2
import ModelDepot.Proofs.Number.Finite
import ModelDepot.Proofs.Number.Order

/-! # Sums of numbers that are equal

The sign of a zero can show in a sum only if all that is summed is negative. A sum that starts from
zero and takes in no negative number is the same for numbers that are equal.
-/

namespace ModelDepot.Binary64

variable {x y z : Binary64}

theorem isNegative_ofMagnitude {m : Nat} (h : m < signBit) :
    (ofMagnitude false m).isNegative = false := by
  have small : m < 2 ^ 64 := Nat.lt_trans h (by decide)
  simp only [isNegative, ofMagnitude, Bool.false_eq_true, if_false, Nat.add_zero,
    UInt64.toNat_ofNat', Nat.mod_eq_of_lt small, decide_eq_false_iff_not]
  omega

/-- Of the numbers that are not below zero only the other zero has the sign set. -/
theorem magnitude_of_isNegative (h : zero.le y = true) (sign : y.isNegative = true) :
    y.magnitude = 0 := by
  have above : zero.rank ≤ y.rank := (le_iff.1 h).2.2
  have start : zero.rank = 0 := by decide
  rw [start] at above
  simp only [rank, sign, if_true] at above
  omega

theorem signedUnits_nonneg (h : zero.le y = true) : 0 ≤ y.signedUnits := by
  unfold signedUnits
  split
  · next sign =>
      have none : unitsOfMagnitude 0 = 0 := by decide
      simp [units, magnitude_of_isNegative h sign, none]
  · omega

theorem add_of_eqNumber (hx : x.isNegative = false) (h : y.eqNumber z = true) :
    x.add y = x.add z := by
  by_cases same : y = z
  · rw [same]
  have zeros : x.add zero = x.add negZero := by
    have nan : zero.isNaN = negZero.isNaN := by decide
    have finite : zero.isFinite = true ∧ negZero.isFinite = true := by decide
    have units : zero.signedUnits = negZero.signedUnits := by decide
    simp [add, nan, finite, units, hx]
  rcases zeros_of_eqNumber h same with ⟨rfl, rfl⟩ | ⟨rfl, rfl⟩
  · exact zeros
  · exact zeros.symm

theorem isNegative_add (hx : x.isNegative = false) (hy : zero.le y = true) :
    (x.add y).isNegative = false := by
  unfold add
  split
  · decide
  split
  · split
    · exact hx
    · decide
  split
  · -- minus infinity is below zero
    next infinite =>
      rw [← Bool.not_eq_true]
      intro sign
      have none := magnitude_of_isNegative hy sign
      simp [isFinite, none, infinityBits] at infinite
  · next finite _ =>
      have units : 0 ≤ x.signedUnits + y.signedUnits := by
        have first : 0 ≤ x.signedUnits := by simp [signedUnits, hx]
        have second := signedUnits_nonneg hy
        omega
      simp only [hx, Bool.false_and]
      split
      · exact isNegative_ofMagnitude (by decide)
      · rw [decide_eq_false (Int.not_lt.2 units)]
        exact isNegative_ofMagnitude (magnitudeOfUnits_lt _ _)

theorem foldl_add_of_eqNumber {xs ys : List Binary64}
    (equal : List.Forall₂ (fun x y => x.eqNumber y = true) xs ys)
    (above : ∀ y ∈ ys, zero.le y = true) {sum : Binary64} (sign : sum.isNegative = false) :
    xs.foldl add sum = ys.foldl add sum := by
  induction equal generalizing sum with
  | nil => rfl
  | @cons x y xs ys h _ ih =>
      rw [List.foldl_cons, List.foldl_cons, add_of_eqNumber sign h]
      exact ih (fun y hy => above y (List.mem_cons_of_mem _ hy))
        (isNegative_add sign (above y List.mem_cons_self))

end ModelDepot.Binary64
