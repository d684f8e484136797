import Mathlib.Algebra.Group.Nat.Defs
import ModelDepot.Number.Decimal
import ModelDepot.Proofs.Number.Finite
import ModelDepot.Proofs.Number.Sum

/-! # Whole numbers

A whole number of at most 53 bits is a floating-point number: nothing is rounded, and no other
whole number is as near to it as its neighbours are.
-/

namespace ModelDepot.Binary64

/-- The magnitude stands for `n` with a significand of 53 bits and an exponent that keeps the
neighbours within one. -/
structure IsWhole (n m s r : Nat) : Prop where
  magnitude : m = s * fractions + r
  units : r * 2 ^ s = n * unitsOfOne
  low : fractions ≤ r
  high : r < 2 * fractions
  coarse : 0 < s
  fine : s ≤ 1074

/-- With the exponent a variable, the units of one are never written out. -/
theorem exists_unitsOfOne : ∃ k, k = 1074 ∧ unitsOfOne = 2 ^ k := by
  unfold unitsOfOne
  generalize 1074 = k
  exact ⟨k, rfl, Nat.pow_eq⟩

theorem unitsOfOne_pos : 0 < unitsOfOne := by
  obtain ⟨k, -, one⟩ := exists_unitsOfOne
  rw [one]
  exact Nat.two_pow_pos k

theorem divEven_mul_left (n : Nat) {d : Nat} (some : 0 < d) : divEven (n * d) d = n := by
  rw [divEven, Nat.mul_div_cancel n some, Nat.mul_mod_left, Nat.mul_zero, if_pos some]

variable {n p m s r : Nat}

theorem exists_isWhole (positive : 0 < n) (small : n < 2 ^ 53) :
    ∃ s r, IsWhole n (ofNat n).magnitude s r := by
  have size : n ≠ 0 := Nat.ne_of_gt positive
  have few : n.log2 ≤ 52 := Nat.le_of_lt_succ ((Nat.log2_lt size).2 small)
  obtain ⟨least, most⟩ := (Nat.log2_eq_iff size).1 rfl
  generalize n.log2 = b at few least most
  obtain ⟨k, hk, one⟩ := exists_unitsOfOne
  have units : n * 2 ^ (52 - b) * 2 ^ (b + 1022) = n * unitsOfOne := by
    rw [one, Nat.mul_assoc, ← Nat.pow_add, show 52 - b + (b + 1022) = k by omega]
  have low : fractions ≤ n * 2 ^ (52 - b) := by
    calc fractions = 2 ^ b * 2 ^ (52 - b) := by
          rw [← Nat.pow_add, Nat.add_sub_cancel' few]
          rfl
      _ ≤ n * 2 ^ (52 - b) := Nat.mul_le_mul_right _ least
  have high : n * 2 ^ (52 - b) < 2 * fractions := by
    calc n * 2 ^ (52 - b) < 2 ^ (b + 1) * 2 ^ (52 - b) :=
          Nat.mul_lt_mul_of_pos_right most (Nat.two_pow_pos _)
      _ = 2 * fractions := by
          rw [← Nat.pow_add, show b + 1 + (52 - b) = 53 by omega]
          rfl
  have bits : (n * unitsOfOne).log2 = b + k := by
    rw [Nat.log2_eq_iff (Nat.ne_of_gt (Nat.mul_pos positive unitsOfOne_pos)), one,
      show b + k + 1 = b + 1 + k by omega, Nat.pow_add 2 b, Nat.pow_add 2 (b + 1)]
    exact ⟨Nat.mul_le_mul_right _ least, Nat.mul_lt_mul_of_pos_right most (Nat.two_pow_pos _)⟩
  refine ⟨b + 1022, n * 2 ^ (52 - b), ?_, units, low, high, by omega, by omega⟩
  have least : (b + 1022) * fractions + n * 2 ^ (52 - b) < infinityBits := by
    unfold infinityBits
    unfold fractions at high ⊢
    omega
  rw [magnitude_ofNat, magnitudeOfUnits, Nat.div_one, bits, Nat.one_mul, Nat.pow_eq,
    show b + k - 52 = b + 1022 by omega, ← units, divEven_mul_left _ (Nat.two_pow_pos _),
    Nat.min_eq_right (Nat.le_of_lt least)]

namespace IsWhole

variable (h : IsWhole n m s r)
include h

theorem unitsOfMagnitude_eq : unitsOfMagnitude m = n * unitsOfOne := by
  rw [h.magnitude, unitsOfMagnitude_add h.low (Nat.le_of_lt h.high), Nat.pow_eq, h.units]

theorem step_le : 2 ^ s ≤ unitsOfOne := by
  obtain ⟨k, hk, one⟩ := exists_unitsOfOne
  rw [one]
  exact Nat.pow_le_pow_right (by decide) (hk ▸ h.fine)

theorem unitsOfMagnitude_succ : unitsOfMagnitude (m + 1) = n * unitsOfOne + 2 ^ s := by
  have high := h.high
  rw [h.magnitude, Nat.add_assoc, unitsOfMagnitude_add (Nat.le_succ_of_le h.low) (by omega),
    Nat.pow_eq, Nat.succ_mul, h.units]

/-- The neighbour below is as far away as the one above, or half as far at a power of two. -/
theorem unitsOfMagnitude_pred :
    n * unitsOfOne ≤ unitsOfMagnitude (m - 1) + 2 ^ s ∧
      unitsOfMagnitude (m - 1) < n * unitsOfOne := by
  obtain ⟨s, rfl⟩ := Nat.exists_eq_add_one_of_ne_zero (Nat.ne_of_gt h.coarse)
  have low := h.low
  have high := h.high
  rcases Nat.lt_or_eq_of_le low with above | first
  · obtain ⟨r, rfl⟩ : ∃ t, r = t + 1 := ⟨r - 1, by omega⟩
    have below : m - 1 = (s + 1) * fractions + r := by
      rw [h.magnitude]
      omega
    have units := h.units
    rw [Nat.succ_mul] at units
    rw [below, unitsOfMagnitude_add (by omega) (by omega), Nat.pow_eq, ← units]
    have := Nat.two_pow_pos (s + 1)
    omega
  · have below : m - 1 = s * fractions + (2 * fractions - 1) := by
      rw [h.magnitude, ← first, Nat.succ_mul]
      unfold fractions
      omega
    have units := h.units
    rw [← first] at units
    rw [below, unitsOfMagnitude_add (by unfold fractions; omega) (by omega), Nat.pow_eq, ← units,
      Nat.pow_succ]
    have := Nat.two_pow_pos s
    unfold fractions
    omega

end IsWhole

/-! ## The fewest digits -/

/-- Of the whole numbers only the number itself lies between the midpoints to its neighbours. -/
theorem IsWhole.between_iff (h : IsWhole n m s r) (closed : Bool) (j : Nat) :
    (if closed then
        decide (unitsOfMagnitude (m - 1) + unitsOfMagnitude m ≤ j * (2 * unitsOfOne)) &&
          decide (j * (2 * unitsOfOne) ≤ unitsOfMagnitude m + unitsOfMagnitude (m + 1))
      else
        decide (unitsOfMagnitude (m - 1) + unitsOfMagnitude m < j * (2 * unitsOfOne)) &&
          decide (j * (2 * unitsOfOne) < unitsOfMagnitude m + unitsOfMagnitude (m + 1))) =
      decide (j = n) := by
  obtain ⟨near, below⟩ := h.unitsOfMagnitude_pred
  have step := h.step_le
  have apart := Nat.two_pow_pos s
  rw [h.unitsOfMagnitude_eq, h.unitsOfMagnitude_succ]
  have point : j * (2 * unitsOfOne) = 2 * (j * unitsOfOne) := Nat.mul_left_comm j 2 unitsOfOne
  rw [point]
  rcases Nat.lt_trichotomy j n with less | rfl | more
  · have far := Nat.mul_le_mul_right unitsOfOne less
    rw [Nat.succ_mul] at far
    have out : 2 * (j * unitsOfOne) < unitsOfMagnitude (m - 1) + n * unitsOfOne := by omega
    simp [Nat.not_le.2 out, Nat.not_lt.2 (Nat.le_of_lt out), Nat.ne_of_lt less]
  · have low : unitsOfMagnitude (m - 1) + j * unitsOfOne < 2 * (j * unitsOfOne) := by omega
    have high : 2 * (j * unitsOfOne) < j * unitsOfOne + (j * unitsOfOne + 2 ^ s) := by omega
    simp [low, high, Nat.le_of_lt low, Nat.le_of_lt high]
  · have far := Nat.mul_le_mul_right unitsOfOne more
    rw [Nat.succ_mul] at far
    have out : n * unitsOfOne + (n * unitsOfOne + 2 ^ s) < 2 * (j * unitsOfOne) := by omega
    simp [Nat.not_le.2 out, Nat.not_lt.2 (Nat.le_of_lt out), Nat.ne_of_gt more]

theorem IsWhole.nearestOnGrid_eq (h : IsWhole n m s r) (closed : Bool) (e : Nat) :
    nearestOnGrid (2 * unitsOfMagnitude m) (2 * unitsOfOne)
        (unitsOfMagnitude (m - 1) + unitsOfMagnitude m)
        (unitsOfMagnitude m + unitsOfMagnitude (m + 1)) closed e =
      if n / 10 ^ e * 10 ^ e = n then some (n / 10 ^ e) else none := by
  have grid : 0 < 10 ^ e := Nat.pow_pos (by decide)
  have up : (-(e : Int)).toNat = 0 := by omega
  have below : 2 * unitsOfMagnitude m / (2 * unitsOfOne * 10 ^ e) = n / 10 ^ e := by
    rw [h.unitsOfMagnitude_eq, Nat.mul_left_comm, ← Nat.div_div_eq_div_mul,
      Nat.mul_div_cancel _ (Nat.mul_pos (by decide) unitsOfOne_pos)]
  have point (k : Nat) : k * (2 * unitsOfOne) * 10 ^ e = k * 10 ^ e * (2 * unitsOfOne) :=
    Nat.mul_right_comm _ _ _
  have above : (n / 10 ^ e + 1) * 10 ^ e ≠ n := by
    have := Nat.lt_mul_div_succ n grid
    rw [Nat.mul_comm]
    omega
  simp only [nearestOnGrid, up, Int.toNat_natCast, Nat.pow_eq, Nat.pow_zero, Nat.mul_one, below,
    point, h.between_iff, above, decide_false]
  by_cases whole : n / 10 ^ e * 10 ^ e = n
  · simp [whole]
  · simp [whole]

/-- Counting down from a number, something is found at zero at the latest. -/
theorem exists_findSome? {α : Type} {f : Int → Option α} (found : (f 0).isSome = true)
    (first len : Nat) (reach : first < len) :
    ∃ (e : Nat) (b : α), f e = some b ∧
      ((List.range len).map fun k : Nat => (first : Int) - k).findSome? f = some b := by
  induction first generalizing len with
  | zero =>
      obtain ⟨len, rfl⟩ := Nat.exists_eq_add_one_of_ne_zero (Nat.ne_of_gt reach)
      obtain ⟨b, hb⟩ := Option.isSome_iff_exists.1 found
      refine ⟨0, b, hb, ?_⟩
      rw [List.range_succ_eq_map, List.map_cons, List.findSome?_cons]
      simp [hb]
  | succ first ih =>
      obtain ⟨len, rfl⟩ := Nat.exists_eq_add_one_of_ne_zero (Nat.ne_of_gt (Nat.zero_lt_of_lt reach))
      have head : ((first + 1 : Nat) : Int) - (0 : Nat) = (first + 1 : Nat) := Int.sub_zero _
      rw [List.range_succ_eq_map, List.map_cons, List.findSome?_cons, List.map_map, head]
      cases hf : f (first + 1 : Nat) with
      | some b => exact ⟨first + 1, b, hf, rfl⟩
      | none =>
          have shifted : (fun k : Nat => ((first + 1 : Nat) : Int) - k) ∘ Nat.succ =
              fun k : Nat => (first : Int) - k := by
            funext k
            simp only [Function.comp]
            omega
          rw [shifted]
          exact ih len (Nat.lt_of_succ_lt_succ reach)

theorem exists_stripped_go (fuel c e : Nat) :
    ∃ c' e' : Nat, Decimal.stripped.go fuel ⟨c, e⟩ = ⟨c', e'⟩ ∧ c' * 10 ^ e' = c * 10 ^ e := by
  induction fuel generalizing c e with
  | zero => exact ⟨c, e, rfl, rfl⟩
  | succ fuel ih =>
      rw [Decimal.stripped.go]
      split
      · next zero =>
          obtain ⟨c', e', same, value⟩ := ih (c / 10) (e + 1)
          refine ⟨c', e', same, value.trans ?_⟩
          rw [Nat.pow_succ, Nat.mul_comm (10 ^ e), ← Nat.mul_assoc, Nat.div_mul_cancel]
          exact Nat.dvd_of_mod_eq_zero zero.1
      · exact ⟨c, e, rfl, rfl⟩

theorem IsWhole.exists_shortest (h : IsWhole n m s r) (few : decimalLength n ≤ 17)
    (positive : 0 < n) :
    ∃ c e : Nat, shortestOfMagnitude m = ⟨c, e⟩ ∧ c * 10 ^ e = n := by
  have digits : 0 < decimalLength n := Nat.length_toDigits_pos
  have first : leadingPower (2 * unitsOfMagnitude m) (2 * unitsOfOne) =
      ((decimalLength n - 1 : Nat) : Int) := by
    have whole : 2 * unitsOfMagnitude m / (2 * unitsOfOne) = n := by
      rw [h.unitsOfMagnitude_eq, Nat.mul_left_comm,
        Nat.mul_div_cancel _ (Nat.mul_pos (by decide) unitsOfOne_pos)]
    have large : 2 * unitsOfOne ≤ 2 * unitsOfMagnitude m := by
      rw [h.unitsOfMagnitude_eq]
      exact Nat.mul_le_mul_left 2 (Nat.le_mul_of_pos_left _ positive)
    rw [leadingPower, if_pos large, whole]
    omega
  have found := h.nearestOnGrid_eq (m % 2 == 0)
  simp only [shortestOfMagnitude, first]
  generalize nearestOnGrid (2 * unitsOfMagnitude m) (2 * unitsOfOne)
    (unitsOfMagnitude (m - 1) + unitsOfMagnitude m)
    (unitsOfMagnitude m + unitsOfMagnitude (m + 1)) (m % 2 == 0) = nearest at found ⊢
  have last : ((nearest 0).map fun c => (⟨c, 0⟩ : Decimal)).isSome = true := by
    have self : n / 10 ^ 0 * 10 ^ 0 = n := by rw [Nat.pow_zero, Nat.mul_one, Nat.div_one]
    rw [show (0 : Int) = (0 : Nat) from rfl, found, if_pos self]
    rfl
  obtain ⟨e, d, hd, same⟩ := exists_findSome?
    (f := fun e => (nearest e).map fun c => (⟨c, e⟩ : Decimal)) last
    (decimalLength n - 1) 17 (by omega)
  rw [same]
  rw [found] at hd
  split at hd
  · next whole =>
      cases hd
      obtain ⟨c, e', stripped, value⟩ :=
        exists_stripped_go (decimalLength (n / 10 ^ e)) (n / 10 ^ e) e
      exact ⟨c, e', stripped, value.trans whole⟩
  · cases hd

theorem toDigits_mul_pow {c : Nat} (positive : 0 < c) (e : Nat) :
    Nat.toDigits 10 (c * 10 ^ e) = Nat.toDigits 10 c ++ List.replicate e '0' := by
  induction e with
  | zero => simp
  | succ e ih =>
      have more := Nat.toDigits_append_toDigits (b := 10) (by decide)
        (Nat.mul_pos positive (Nat.pow_pos (by decide : 0 < 10) (n := e))) (by decide : 0 < 10)
      rw [Nat.pow_succ, ← Nat.mul_assoc, Nat.mul_comm _ 10, ← Nat.add_zero (10 * _), ← more, ih,
        List.replicate_succ', List.append_assoc]
      rfl

theorem isNegative_ofNat (n : Nat) : (ofNat n).isNegative = false :=
  isNegative_ofMagnitude (magnitudeOfUnits_lt _ _)

theorem IsWhole.pos (h : IsWhole n m s r) : 0 < m := by
  have low := h.low
  rw [h.magnitude]
  unfold fractions at low
  omega

theorem shortestText_ofNat (small : n < 2 ^ 53) :
    (ofNat n).shortestText = decimalText n ++ ".0" := by
  rcases Nat.eq_zero_or_pos n with rfl | positive
  · decide +kernel
  · obtain ⟨s, r, h⟩ := exists_isWhole positive small
    have few : decimalLength n ≤ 16 :=
      (Nat.length_toDigits_le_iff (by decide) (by decide)).2 (Nat.lt_trans small (by decide))
    obtain ⟨c, e, shortest, value⟩ := h.exists_shortest (Nat.le_succ_of_le few) positive
    have some : 0 < c := by
      rw [Nat.pos_iff_ne_zero]
      rintro rfl
      rw [Nat.zero_mul] at value
      omega
    have digits := toDigits_mul_pow some e
    rw [value] at digits
    have length : decimalLength n = decimalLength c + e := by
      rw [decimalLength, digits, List.length_append, List.length_replicate, decimalLength]
    have first : 0 < decimalLength c := Nat.length_toDigits_pos
    have leading : -5 ≤ (⟨c, e⟩ : Decimal).leading ∧ (⟨c, e⟩ : Decimal).leading ≤ 15 := by
      simp only [Decimal.leading]
      omega
    have whole : (0 : Int) ≤ e := Int.natCast_nonneg e
    simp only [shortestText, isNegative_ofNat, shortest, Nat.ne_of_gt h.pos, leading, positional,
      whole, if_true]
    simp [decimalText, digits, zeros, String.ofList_append]

/-! ## A tenth -/

theorem divEven_mul_mul (n d : Nat) {k : Nat} (some : 0 < k) :
    divEven (n * k) (d * k) = divEven n d := by
  simp only [divEven, Nat.mul_div_mul_right _ _ some, Nat.mul_mod_mul_right, ← Nat.mul_assoc,
    Nat.mul_lt_mul_right some]

theorem magnitudeOfUnits_mul_mul (n d : Nat) {k : Nat} (some : 0 < k) :
    magnitudeOfUnits (n * k) (d * k) = magnitudeOfUnits n d := by
  simp only [magnitudeOfUnits, Nat.mul_div_mul_right _ _ some, Nat.mul_right_comm d k,
    divEven_mul_mul _ _ some]

theorem isFinite_ofNat (small : n < 2 ^ 53) : (ofNat n).isFinite = true := by
  apply isFinite_of_magnitude_le (magnitude_ofNat_le (a := 53) small) (by decide)

theorem div_ofNat {k : Nat} (some : 0 < k) (positive : 0 < n) (small : k * n < 2 ^ 53) :
    (ofNat (k * n)).div (ofNat k) = ofNat n := by
  have below : k < 2 ^ 53 := Nat.lt_of_le_of_lt (Nat.le_mul_of_pos_right k positive) small
  obtain ⟨s, r, h⟩ := exists_isWhole (Nat.mul_pos some positive) small
  obtain ⟨s', r', h'⟩ := exists_isWhole some below
  have finite := isFinite_ofNat small
  have finite' := isFinite_ofNat below
  have units : (ofNat (k * n)).units * unitsOfOne = n * unitsOfOne * (k * unitsOfOne) := by
    rw [Binary64.units, h.unitsOfMagnitude_eq]
    simp only [Nat.mul_left_comm, Nat.mul_comm]
  have units' : (ofNat k).units = 1 * (k * unitsOfOne) := by
    rw [Binary64.units, h'.unitsOfMagnitude_eq, Nat.one_mul]
  simp only [div, isNaN_eq_false finite, isNaN_eq_false finite', finite, finite',
    Nat.ne_of_gt h'.pos, isNegative_ofNat, units, units',
    magnitudeOfUnits_mul_mul _ _ (Nat.mul_pos some unitsOfOne_pos)]
  simp [ofNat, ofRatio]

/-! ## Order -/

theorem IsWhole.magnitude_le {m' s' r' : Nat} (h : IsWhole n m s r) (h' : IsWhole p m' s' r')
    (le : n ≤ p) : m ≤ m' := by
  have high := h.high
  have low := h'.low
  have units : r * 2 ^ s ≤ r' * 2 ^ s' := by
    rw [h.units, h'.units]
    exact Nat.mul_le_mul_right unitsOfOne le
  rw [h.magnitude, h'.magnitude]
  rcases Nat.lt_trichotomy s s' with below | rfl | above
  · unfold fractions at *
    omega
  · exact Nat.add_le_add_left (Nat.le_of_mul_le_mul_right units (Nat.two_pow_pos s)) _
  · have less : r' * 2 ^ s' < r * 2 ^ s := by
      calc r' * 2 ^ s' < 2 * fractions * 2 ^ s' :=
            Nat.mul_lt_mul_of_pos_right h'.high (Nat.two_pow_pos s')
        _ = fractions * 2 ^ (s' + 1) := by
            rw [Nat.pow_succ, Nat.mul_comm 2, Nat.mul_assoc, Nat.mul_comm 2]
        _ ≤ r * 2 ^ s := Nat.mul_le_mul h.low (Nat.pow_le_pow_right (by decide) above)
    omega

theorem magnitude_ofNat_zero : (ofNat 0).magnitude = 0 := by
  decide +kernel

theorem magnitude_ofNat_mono (le : n ≤ p) (small : p < 2 ^ 53) :
    (ofNat n).magnitude ≤ (ofNat p).magnitude := by
  rcases Nat.eq_zero_or_pos n with rfl | positive
  · rw [magnitude_ofNat_zero]
    exact Nat.zero_le _
  · obtain ⟨_, _, h⟩ := exists_isWhole positive (Nat.lt_of_le_of_lt le small)
    obtain ⟨_, _, h'⟩ := exists_isWhole (Nat.lt_of_lt_of_le positive le) small
    exact h.magnitude_le h' le

theorem rank_ofNat (n : Nat) : (ofNat n).rank = (ofNat n).magnitude := by
  rw [rank, isNegative_ofNat]
  rfl

theorem clamp_ofNat (le : n ≤ p) (small : p < 2 ^ 53) :
    (ofNat n).clamp zero (ofNat p) = ofNat n := by
  have ordered := magnitude_ofNat_mono le small
  have start : zero.rank = 0 := by decide
  have low : (ofNat n).lt zero = false := by
    simp only [lt, rank_ofNat, start, Bool.and_eq_false_iff, decide_eq_false_iff_not]
    omega
  have high : (ofNat p).lt (ofNat n) = false := by
    simp only [lt, rank_ofNat, Bool.and_eq_false_iff, decide_eq_false_iff_not]
    omega
  simp [clamp, low, high]

end ModelDepot.Binary64
