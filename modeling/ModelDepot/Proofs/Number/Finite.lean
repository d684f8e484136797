import ModelDepot.Number.Binary64

/-! # Numbers that stay finite

Rounding leaves the finite numbers only far beyond the integers of 64 bits, and dividing by ten or
more leads away from there.
-/

namespace ModelDepot.Binary64

theorem magnitude_ofMagnitude (negative : Bool) {m : Nat} (h : m < signBit) :
    (ofMagnitude negative m).magnitude = m := by
  unfold signBit at h
  cases negative
  · simp only [magnitude, ofMagnitude, signBit, UInt64.toNat_ofNat', Bool.false_eq_true, if_false]
    omega
  · simp only [magnitude, ofMagnitude, signBit, UInt64.toNat_ofNat', if_true]
    omega

theorem magnitudeOfUnits_lt (n d : Nat) : magnitudeOfUnits n d < signBit :=
  Nat.lt_of_le_of_lt (Nat.min_le_left _ _) (by decide)

theorem magnitude_ofNat (n : Nat) :
    (ofNat n).magnitude = magnitudeOfUnits (n * unitsOfOne) 1 := by
  rw [ofNat, ofRatio, magnitude_ofMagnitude _ (magnitudeOfUnits_lt _ _)]

theorem isNaN_eq_false {x : Binary64} (finite : x.isFinite = true) : x.isNaN = false := by
  have small := of_decide_eq_true finite
  exact decide_eq_false (by omega)

theorem divEven_le (n d : Nat) : divEven n d ≤ n / d + 1 := by
  simp only [divEven]
  split
  · omega
  · split <;> omega

theorem div_pow_lt (n : Nat) : n / (1 * Nat.pow 2 (n.log2 - 52)) < 2 * fractions := by
  have bound : n < 2 ^ (n.log2 + 1) := Nat.lt_log2_self
  have leading : 2 * fractions = 2 ^ 53 := by decide
  rw [leading, Nat.one_mul, Nat.pow_eq]
  apply Nat.div_lt_of_lt_mul
  rw [← Nat.pow_add]
  apply Nat.lt_of_lt_of_le bound
  apply Nat.pow_le_pow_right (by decide)
  omega

theorem magnitudeOfUnits_lt_infinityBits {n : Nat} (h : n.log2 < 2097) :
    magnitudeOfUnits n 1 < infinityBits := by
  have leading := div_pow_lt n
  unfold fractions at leading
  have rounded := divEven_le n (1 * Nat.pow 2 (n.log2 - 52))
  simp only [magnitudeOfUnits, Nat.div_one, infinityBits, fractions]
  omega

theorem log2_mul_unitsOfOne_le {n a : Nat} (h : n < Nat.pow 2 a) :
    (n * unitsOfOne).log2 ≤ a + 1074 := by
  unfold unitsOfOne
  -- with the exponent a variable, the units of one are never written out
  generalize 1074 = k
  by_cases zero : n * Nat.pow 2 k = 0
  · rw [zero]
    exact Nat.zero_le _
  · apply Nat.le_of_lt
    rw [Nat.log2_lt zero, Nat.pow_eq, Nat.pow_add]
    exact Nat.mul_lt_mul_of_pos_right h (Nat.two_pow_pos k)

theorem isFinite_ofInt {i : Int} (h : i.natAbs ≤ 0x10000000000000000) :
    (ofInt i).isFinite = true := by
  have units : (i.natAbs * unitsOfOne).log2 ≤ 65 + 1074 :=
    log2_mul_unitsOfOne_le (Nat.lt_of_le_of_lt h (by decide))
  have finite : magnitudeOfUnits (i.natAbs * unitsOfOne) 1 < infinityBits := by
    apply magnitudeOfUnits_lt_infinityBits
    omega
  have below : infinityBits < signBit := by decide
  rw [isFinite, ofInt, ofRatio, magnitude_ofMagnitude _ (Nat.lt_trans finite below)]
  exact decide_eq_true finite

/-! ## Division -/

variable {x y : Binary64} {e n d : Nat}

theorem isFinite_of_magnitude_le (h : x.magnitude ≤ e * fractions) (few : e < 2047) :
    x.isFinite = true := by
  apply decide_eq_true
  unfold infinityBits
  unfold fractions at h
  omega

@[simp] theorem isFinite_neg (x : Binary64) : x.neg.isFinite = x.isFinite := by
  have below : x.magnitude < signBit := Nat.mod_lt _ (by decide)
  simp only [isFinite, neg, magnitude_ofMagnitude _ below]

theorem units_lt_of_magnitude_le (h : x.magnitude ≤ e * fractions) :
    x.units < Nat.pow 2 (e + 53) := by
  have exponent : x.magnitude / fractions ≤ e :=
    Nat.le_trans (Nat.div_le_div_right h) (Nat.le_of_eq (Nat.mul_div_cancel e (by decide)))
  have fraction : x.magnitude % fractions < fractions := Nat.mod_lt _ (by decide)
  have leading : 2 * fractions = Nat.pow 2 53 := by decide
  simp only [units, unitsOfMagnitude]
  split
  · calc x.magnitude % fractions < Nat.pow 2 53 := by omega
      _ ≤ Nat.pow 2 (e + 53) := Nat.pow_le_pow_right (by decide) (Nat.le_add_left 53 e)
  · calc (fractions + x.magnitude % fractions) * Nat.pow 2 (x.magnitude / fractions - 1)
        < Nat.pow 2 53 * Nat.pow 2 (x.magnitude / fractions - 1) :=
          Nat.mul_lt_mul_of_pos_right (by omega) (Nat.two_pow_pos _)
      _ = Nat.pow 2 (53 + (x.magnitude / fractions - 1)) := (Nat.pow_add 2 53 _).symm
      _ ≤ Nat.pow 2 (e + 53) := Nat.pow_le_pow_right (by decide) (by omega)

/-- Rounding a quotient keeps to the exponent of its whole part. -/
theorem magnitudeOfUnits_le (n d : Nat) :
    magnitudeOfUnits n d ≤ ((n / d).log2 - 52 + 2) * fractions := by
  have leading := div_pow_lt (n / d)
  have rounded := divEven_le n (d * Nat.pow 2 ((n / d).log2 - 52))
  rw [Nat.one_mul, Nat.div_div_eq_div_mul] at leading
  unfold fractions at leading
  simp only [magnitudeOfUnits, fractions]
  omega

theorem magnitude_ofNat_le {a : Nat} (h : n < Nat.pow 2 a) :
    (ofNat n).magnitude ≤ (a + 1024) * fractions := by
  have few := log2_mul_unitsOfOne_le h
  have most := magnitudeOfUnits_le (n * unitsOfOne) 1
  rw [Nat.div_one] at most
  rw [magnitude_ofNat]
  apply Nat.le_trans most
  apply Nat.mul_le_mul_right
  omega

theorem magnitude_ne_zero_of_units (h : 0 < y.units) : y.magnitude ≠ 0 := by
  intro zero
  have none : y.units = 0 := by rw [units, zero]; rfl
  omega

/-- A division by four or more makes a number smaller, by no less than rounding adds to it. -/
theorem magnitude_div_le (hx : x.magnitude ≤ e * fractions) (some : 2 ≤ e) (few : e < 2047)
    (hy : y.isFinite = true) (large : 4 * unitsOfOne ≤ y.units) :
    (x.div y).magnitude ≤ e * fractions := by
  have one : 0 < unitsOfOne := by decide +kernel
  have quotient : x.units * unitsOfOne / y.units ≤ x.units / 4 := by
    calc x.units * unitsOfOne / y.units ≤ x.units * unitsOfOne / (4 * unitsOfOne) :=
          Nat.div_le_div_left large (by omega)
      _ = x.units / 4 := Nat.mul_div_mul_right _ _ one
  have smaller : (x.units * unitsOfOne / y.units).log2 ≤ e + 50 := by
    have size := units_lt_of_magnitude_le hx
    rw [show e + 53 = e + 51 + 2 by omega, Nat.pow_eq, Nat.pow_succ, Nat.pow_succ] at size
    by_cases zero : x.units * unitsOfOne / y.units = 0
    · rw [zero]
      exact Nat.zero_le _
    · have quarter : x.units / 4 < 2 ^ (e + 51) := by omega
      exact Nat.le_of_lt_succ ((Nat.log2_lt zero).2 (Nat.lt_of_le_of_lt quotient quarter))
  have most := magnitudeOfUnits_le (x.units * unitsOfOne) y.units
  have finite := isFinite_of_magnitude_le hx few
  simp only [div, isNaN_eq_false finite, isNaN_eq_false hy, finite, hy,
    magnitude_ne_zero_of_units (y := y) (by omega), Bool.or_self, Bool.not_true,
    Bool.false_eq_true, if_false, magnitude_ofMagnitude _ (magnitudeOfUnits_lt _ _)]
  apply Nat.le_trans most
  apply Nat.mul_le_mul_right
  omega

/-- A significand of 53 bits and its exponent, put together and taken apart again. A significand
that rounding has brought to its double belongs to the next exponent. -/
theorem unitsOfMagnitude_add {s r : Nat} (low : fractions ≤ r) (high : r ≤ 2 * fractions) :
    unitsOfMagnitude (s * fractions + r) = r * Nat.pow 2 s := by
  have some : 0 < fractions := by decide
  rcases Nat.lt_or_eq_of_le high with below | rfl
  · have split : s * fractions + r = (s + 1) * fractions + (r - fractions) := by
      rw [Nat.add_mul]
      omega
    have exponent : (s * fractions + r) / fractions = s + 1 := by
      rw [split, Nat.mul_comm, Nat.mul_add_div some, Nat.div_eq_of_lt (by omega)]
    have fraction : (s * fractions + r) % fractions = r - fractions := by
      rw [split, Nat.mul_comm, Nat.mul_add_mod, Nat.mod_eq_of_lt (by omega)]
    simp only [unitsOfMagnitude, exponent, fraction]
    rw [if_neg (Nat.succ_ne_zero s), Nat.add_sub_cancel, Nat.add_sub_cancel' low]
  · have split : s * fractions + 2 * fractions = (s + 2) * fractions := by
      rw [Nat.add_mul]
    have exponent : (s * fractions + 2 * fractions) / fractions = s + 2 := by
      rw [split, Nat.mul_div_cancel _ some]
    have fraction : (s * fractions + 2 * fractions) % fractions = 0 := by
      rw [split, Nat.mul_mod_left]
    simp only [unitsOfMagnitude, exponent, fraction]
    rw [if_neg (Nat.succ_ne_zero _), Nat.add_zero, show s + 2 - 1 = s + 1 from rfl, Nat.pow_eq,
      Nat.pow_eq, Nat.pow_succ, Nat.mul_comm 2, Nat.mul_assoc, Nat.mul_comm 2]

theorem le_divEven (n d : Nat) : n / d ≤ divEven n d := by
  simp only [divEven]
  split
  · exact Nat.le_refl _
  · split <;> omega

/-- Rounding takes less than half of a number away. -/
theorem le_two_mul_unitsOfMagnitude (large : fractions ≤ n)
    (finite : magnitudeOfUnits n 1 < infinityBits) :
    n ≤ 2 * unitsOfMagnitude (magnitudeOfUnits n 1) := by
  have size : n ≠ 0 := Nat.ne_of_gt (Nat.lt_of_lt_of_le (by decide) large)
  have bits : 52 ≤ n.log2 := (Nat.le_log2 size).2 large
  have low : fractions ≤ n / (1 * Nat.pow 2 (n.log2 - 52)) := by
    rw [Nat.one_mul, Nat.pow_eq, Nat.le_div_iff_mul_le (Nat.two_pow_pos _)]
    calc fractions * Nat.pow 2 (n.log2 - 52) = 2 ^ (52 + (n.log2 - 52)) := (Nat.pow_add 2 52 _).symm
      _ = 2 ^ n.log2 := by rw [Nat.add_sub_cancel' bits]
      _ ≤ n := Nat.log2_self_le size
  have high := div_pow_lt n
  have up := le_divEven n (1 * Nat.pow 2 (n.log2 - 52))
  have down := divEven_le n (1 * Nat.pow 2 (n.log2 - 52))
  have rounded : magnitudeOfUnits n 1 =
      (n.log2 - 52) * fractions + divEven n (1 * Nat.pow 2 (n.log2 - 52)) := by
    simp only [magnitudeOfUnits, Nat.div_one] at finite ⊢
    omega
  rw [rounded, unitsOfMagnitude_add (by omega) (by omega)]
  have some : 1 ≤ n / (1 * Nat.pow 2 (n.log2 - 52)) := Nat.le_trans (by decide) low
  have rest := Nat.lt_mul_div_succ n (Nat.two_pow_pos (n.log2 - 52))
  rw [Nat.one_mul] at some up ⊢
  calc n ≤ Nat.pow 2 (n.log2 - 52) * (n / Nat.pow 2 (n.log2 - 52) + 1) := Nat.le_of_lt rest
    _ ≤ Nat.pow 2 (n.log2 - 52) * (2 * divEven n (Nat.pow 2 (n.log2 - 52))) :=
        Nat.mul_le_mul_left _ (by omega)
    _ = 2 * (divEven n (Nat.pow 2 (n.log2 - 52)) * Nat.pow 2 (n.log2 - 52)) := by
        rw [Nat.mul_left_comm, Nat.mul_comm (Nat.pow 2 _)]

theorem le_two_mul_units_ofNat (positive : 0 < n) (finite : (ofNat n).isFinite = true) :
    n * unitsOfOne ≤ 2 * (ofNat n).units := by
  have large : fractions ≤ n * unitsOfOne :=
    Nat.le_trans (by decide +kernel) (Nat.le_mul_of_pos_left unitsOfOne positive)
  rw [units, magnitude_ofNat]
  apply le_two_mul_unitsOfMagnitude large
  rw [← magnitude_ofNat]
  exact of_decide_eq_true finite

end ModelDepot.Binary64
