import Mathlib.Algebra.BigOperators.Ring.List
import Mathlib.Tactic.Linarith
import Mathlib.Tactic.Ring
import ModelDepot.Proofs.Number.Whole

/-! # What rounding keeps

Rounding keeps the order of numbers, and a number that is not too small changes by less than one
part in 2^53. So do the operations that round once.
-/

namespace ModelDepot.Binary64

variable {n p d m : Nat} {x y : Binary64}

/-! ## Order -/

theorem divEven_mono (le : n ≤ p) (d : Nat) : divEven n d ≤ divEven p d := by
  rcases Nat.lt_or_eq_of_le (Nat.div_le_div_right le : n / d ≤ p / d) with less | same
  · calc divEven n d ≤ n / d + 1 := divEven_le n d
      _ ≤ p / d := less
      _ ≤ divEven p d := le_divEven p d
  · have first := Nat.div_add_mod n d
    have second := Nat.div_add_mod p d
    rw [same] at first
    have rest : n % d ≤ p % d := by omega
    simp only [divEven, same]
    split_ifs <;> omega

theorem log2_mono (le : n ≤ p) : n.log2 ≤ p.log2 := by
  rcases Nat.eq_zero_or_pos n with rfl | positive
  · exact Nat.zero_le _
  · have some : n ≠ 0 := Nat.ne_of_gt positive
    rw [Nat.le_log2 (by omega)]
    exact Nat.le_trans (Nat.log2_self_le some) le

/-- A number of at least 53 bits is rounded to 53 of them. -/
theorem fractions_le_div (coarse : 52 ≤ (n / d).log2) :
    fractions ≤ n / (d * Nat.pow 2 ((n / d).log2 - 52)) := by
  have some : n / d ≠ 0 := by
    intro zero
    rw [zero] at coarse
    exact absurd coarse (by decide)
  rw [← Nat.div_div_eq_div_mul, Nat.pow_eq, Nat.le_div_iff_mul_le (Nat.two_pow_pos _)]
  calc fractions * 2 ^ ((n / d).log2 - 52) = 2 ^ (52 + ((n / d).log2 - 52)) :=
        (Nat.pow_add 2 52 _).symm
    _ = 2 ^ (n / d).log2 := by rw [Nat.add_sub_cancel' coarse]
    _ ≤ n / d := Nat.log2_self_le some

theorem divEven_le_fractions (n d : Nat) :
    divEven n (d * Nat.pow 2 ((n / d).log2 - 52)) ≤ 2 * fractions := by
  have leading := div_pow_lt (n / d)
  rw [Nat.one_mul, Nat.div_div_eq_div_mul] at leading
  exact Nat.le_trans (divEven_le _ _) leading

theorem magnitudeOfUnits_mono (le : n ≤ p) (d : Nat) :
    magnitudeOfUnits n d ≤ magnitudeOfUnits p d := by
  have log := log2_mono (Nat.div_le_div_right le : n / d ≤ p / d)
  simp only [magnitudeOfUnits]
  apply Nat.le_min.2 ⟨Nat.min_le_left _ _, Nat.le_trans (Nat.min_le_right _ _) _⟩
  rcases Nat.lt_or_eq_of_le (Nat.sub_le_sub_right log 52) with less | same
  · have high := divEven_le_fractions n d
    have low := Nat.le_trans (fractions_le_div (n := p) (d := d) (by omega)) (le_divEven _ _)
    calc ((n / d).log2 - 52) * fractions + divEven n (d * Nat.pow 2 ((n / d).log2 - 52))
        ≤ ((n / d).log2 - 52) * fractions + 2 * fractions := Nat.add_le_add_left high _
      _ = ((n / d).log2 - 52 + 1) * fractions + fractions := by rw [Nat.add_mul]; omega
      _ ≤ ((p / d).log2 - 52) * fractions + fractions :=
          Nat.add_le_add_right (Nat.mul_le_mul_right _ less) _
      _ ≤ ((p / d).log2 - 52) * fractions + divEven p (d * Nat.pow 2 ((p / d).log2 - 52)) :=
          Nat.add_le_add_left low _
  · rw [same]
    exact Nat.add_le_add_left (divEven_mono le _) _

theorem unitsOfMagnitude_le_pow (m : Nat) :
    unitsOfMagnitude m ≤ fractions * 2 ^ (m / fractions) := by
  have fraction : m % fractions < fractions := Nat.mod_lt _ (by decide)
  simp only [unitsOfMagnitude, Nat.pow_eq]
  split
  · next zero =>
      rw [zero, Nat.pow_zero, Nat.mul_one]
      exact Nat.le_of_lt fraction
  · next some =>
      obtain ⟨e, he⟩ := Nat.exists_eq_add_one_of_ne_zero some
      rw [he, Nat.add_sub_cancel, Nat.pow_succ, Nat.mul_comm (2 ^ e) 2, ← Nat.mul_assoc]
      exact Nat.mul_le_mul_right _ (by omega)

theorem unitsOfMagnitude_mono {m' : Nat} (le : m ≤ m') :
    unitsOfMagnitude m ≤ unitsOfMagnitude m' := by
  rcases Nat.lt_or_eq_of_le (Nat.div_le_div_right le : m / fractions ≤ m' / fractions) with
    less | same
  · have some : m' / fractions ≠ 0 := Nat.ne_of_gt (Nat.zero_lt_of_lt less)
    calc unitsOfMagnitude m ≤ fractions * 2 ^ (m / fractions) := unitsOfMagnitude_le_pow m
      _ ≤ fractions * 2 ^ (m' / fractions - 1) :=
          Nat.mul_le_mul_left _ (Nat.pow_le_pow_right (by decide) (by omega))
      _ ≤ (fractions + m' % fractions) * 2 ^ (m' / fractions - 1) :=
          Nat.mul_le_mul_right _ (Nat.le_add_right _ _)
      _ = unitsOfMagnitude m' := by simp only [unitsOfMagnitude, if_neg some, Nat.pow_eq]
  · have first := Nat.div_add_mod m fractions
    have second := Nat.div_add_mod m' fractions
    rw [same] at first
    have fraction : m % fractions ≤ m' % fractions := by omega
    simp only [unitsOfMagnitude, same]
    split
    · exact fraction
    · exact Nat.mul_le_mul_right _ (Nat.add_le_add_left fraction _)

theorem magnitude_ofNat_le_of_le (le : n ≤ p) : (ofNat n).magnitude ≤ (ofNat p).magnitude := by
  rw [magnitude_ofNat, magnitude_ofNat]
  exact magnitudeOfUnits_mono (Nat.mul_le_mul_right _ le) 1

/-- A number that is not negative and not infinite. -/
structure IsSize (x : Binary64) : Prop where
  positive : x.isNegative = false
  finite : x.isFinite = true

theorem IsSize.rank_eq (h : x.IsSize) : x.rank = x.magnitude := by
  rw [rank, h.positive]
  rfl

theorem IsSize.le_iff (hx : x.IsSize) (hy : y.IsSize) :
    x.le y = true ↔ x.magnitude ≤ y.magnitude := by
  rw [Binary64.le_iff, hx.rank_eq, hy.rank_eq, Int.ofNat_le]
  exact ⟨fun h => h.2.2, fun h => ⟨isNaN_eq_false hx.finite, isNaN_eq_false hy.finite, h⟩⟩

theorem IsSize.div_eq (hx : x.IsSize) (hy : y.IsSize) (some : y.magnitude ≠ 0) :
    x.div y = ofMagnitude false (magnitudeOfUnits (x.units * unitsOfOne) y.units) := by
  simp only [div, isNaN_eq_false hx.finite, isNaN_eq_false hy.finite, hx.finite, hy.finite,
    hx.positive, hy.positive, some, Bool.or_self, Bool.not_true, Bool.false_eq_true, if_false,
    bne_self_eq_false]

/-! ## Nearness -/

/-- The numbers are no more than `e` parts in 2^53 of the second one apart. -/
def Near (e a b : Nat) : Prop :=
  2 ^ 53 * a ≤ 2 ^ 53 * b + e * b ∧ 2 ^ 53 * b ≤ 2 ^ 53 * a + e * b

theorem Near.mul_right {e a b : Nat} (h : Near e a b) (k : Nat) : Near e (a * k) (b * k) := by
  obtain ⟨above, below⟩ := h
  constructor
  · simpa only [Nat.add_mul, Nat.mul_assoc] using Nat.mul_le_mul_right k above
  · simpa only [Nat.add_mul, Nat.mul_assoc] using Nat.mul_le_mul_right k below

/-- Errors add up, but for what is too small to count. -/
theorem Near.trans {e f a b c : Nat} (h : Near e a b) (h' : Near f b c)
    (few : e * f ≤ 2 ^ 53) : Near (e + f + 1) a c := by
  obtain ⟨above, below⟩ := h
  obtain ⟨above', below'⟩ := h'
  have some : 0 < 2 ^ 53 := Nat.two_pow_pos 53
  unfold Near
  generalize 2 ^ 53 = E at *
  have product : e * f * c ≤ E * c := Nat.mul_le_mul_right c few
  have error : e * (E * b) ≤ e * (E * c + f * c) := Nat.mul_le_mul_left e above'
  constructor <;> apply Nat.le_of_mul_le_mul_left _ some
  · calc E * (E * a) ≤ E * (E * b + e * b) := Nat.mul_le_mul_left E above
      _ = E * (E * b) + e * (E * b) := by ring
      _ ≤ E * (E * c + f * c) + e * (E * c + f * c) :=
          Nat.add_le_add (Nat.mul_le_mul_left E above') error
      _ = E * (E * c) + E * ((e + f) * c) + e * f * c := by ring
      _ ≤ E * (E * c) + E * ((e + f) * c) + E * c := Nat.add_le_add_left product _
      _ = E * (E * c + (e + f + 1) * c) := by ring
  · calc E * (E * c) ≤ E * (E * b + f * c) := Nat.mul_le_mul_left E below'
      _ = E * (E * b) + E * (f * c) := by ring
      _ ≤ E * (E * a + e * b) + E * (f * c) :=
          Nat.add_le_add_right (Nat.mul_le_mul_left E below) _
      _ = E * (E * a) + e * (E * b) + E * (f * c) := by ring
      _ ≤ E * (E * a) + e * (E * c + f * c) + E * (f * c) :=
          Nat.add_le_add_right (Nat.add_le_add_left error _) _
      _ = E * (E * a) + E * ((e + f) * c) + e * f * c := by ring
      _ ≤ E * (E * a) + E * ((e + f) * c) + E * c := Nat.add_le_add_left product _
      _ = E * (E * a + (e + f + 1) * c) := by ring

theorem divEven_near (n : Nat) {d : Nat} (some : 0 < d) :
    2 * (divEven n d * d) ≤ 2 * n + d ∧ 2 * n ≤ 2 * (divEven n d * d) + d := by
  have split := Nat.div_add_mod n d
  have rest := Nat.mod_lt n some
  rw [Nat.mul_comm] at split
  simp only [divEven]
  split_ifs
  · omega
  · rw [Nat.add_mul, Nat.one_mul]
    omega
  · rcases Nat.mod_two_eq_zero_or_one (n / d) with even | odd
    · rw [even, Nat.add_zero]
      omega
    · rw [odd, Nat.add_mul, Nat.one_mul]
      omega

/-- A quotient of at least 53 bits keeps 53 of them. -/
theorem near_magnitudeOfUnits (large : fractions * d ≤ n) (some : 0 < d)
    (finite : magnitudeOfUnits n d < infinityBits) :
    Near 1 (unitsOfMagnitude (magnitudeOfUnits n d) * d) n := by
  have quotient : fractions ≤ n / d := (Nat.le_div_iff_mul_le some).2 large
  have positive : n / d ≠ 0 := Nat.ne_of_gt (Nat.lt_of_lt_of_le (by decide) quotient)
  have coarse : 52 ≤ (n / d).log2 := (Nat.le_log2 positive).2 quotient
  have low := fractions_le_div coarse
  have high := divEven_le_fractions n d
  have step : 0 < d * Nat.pow 2 ((n / d).log2 - 52) := Nat.mul_pos some (Nat.two_pow_pos _)
  obtain ⟨above, below⟩ := divEven_near n step
  have part : fractions * (d * Nat.pow 2 ((n / d).log2 - 52)) ≤ n :=
    (Nat.le_div_iff_mul_le step).1 low
  have rounded : magnitudeOfUnits n d = ((n / d).log2 - 52) * fractions +
      divEven n (d * Nat.pow 2 ((n / d).log2 - 52)) := by
    simp only [magnitudeOfUnits] at finite ⊢
    omega
  rw [rounded, unitsOfMagnitude_add (Nat.le_trans low (le_divEven _ _)) high, Nat.mul_assoc,
    Nat.mul_comm _ d]
  have leading : (2 : Nat) ^ 53 = 2 * fractions := by decide
  simp only [Near, leading, Nat.one_mul]
  unfold fractions at part ⊢
  omega

theorem Near.le_two_mul {e a b : Nat} (h : Near e a b) (few : e ≤ 2 ^ 52) : b ≤ 2 * a := by
  have error : e * b ≤ 2 ^ 52 * b := Nat.mul_le_mul_right b few
  have below := h.2
  omega

/-! ## Quotients -/

/-- A number divided by others one after the other, the last of them first. Every division is
rounded. -/
def quotient (n : Nat) : List Nat → Binary64
  | [] => ofNat n
  | d :: ds => (quotient n ds).div (ofNat d)

/-- Divisors that can be told apart from their neighbours and make every number smaller. -/
def AreDivisors (ds : List Nat) : Prop :=
  ∀ d ∈ ds, 4 ≤ d ∧ d < 2 ^ 53

theorem units_ofNat (positive : 0 < n) (small : n < 2 ^ 53) :
    (ofNat n).units = n * unitsOfOne := by
  obtain ⟨s, r, whole⟩ := exists_isWhole positive small
  exact whole.unitsOfMagnitude_eq

theorem isSize_ofNat (small : n < 2 ^ 64) : (ofNat n).IsSize :=
  ⟨isNegative_ofNat n, isFinite_of_magnitude_le (magnitude_ofNat_le small) (by decide)⟩

variable {ds : List Nat}

theorem isSize_quotient (small : n < 2 ^ 64) (divisors : AreDivisors ds) :
    (quotient n ds).IsSize ∧ (quotient n ds).magnitude ≤ 1088 * fractions := by
  induction ds with
  | nil => exact ⟨isSize_ofNat small, magnitude_ofNat_le small⟩
  | cons d ds ih =>
      obtain ⟨size, bound⟩ := ih fun k hk => divisors k (List.mem_cons_of_mem d hk)
      obtain ⟨low, high⟩ := divisors d List.mem_cons_self
      have divisor : (ofNat d).IsSize := isSize_ofNat (Nat.lt_trans high (by decide))
      have units := units_ofNat (Nat.lt_of_lt_of_le (by decide) low) high
      have large : 4 * unitsOfOne ≤ (ofNat d).units := by
        rw [units]
        exact Nat.mul_le_mul_right _ low
      have some := magnitude_ne_zero_of_units (y := ofNat d)
        (Nat.lt_of_lt_of_le (Nat.mul_pos (by decide) unitsOfOne_pos) large)
      have less := magnitude_div_le bound (by decide) (by decide) divisor.finite large
      refine ⟨⟨?_, isFinite_of_magnitude_le less (by decide)⟩, less⟩
      rw [quotient, size.div_eq divisor some]
      exact isNegative_ofMagnitude (magnitudeOfUnits_lt _ _)

theorem quotient_cons {d : Nat} (small : n < 2 ^ 64) (divisors : AreDivisors (d :: ds)) :
    (quotient n (d :: ds)).magnitude = magnitudeOfUnits (quotient n ds).units d := by
  obtain ⟨size, -⟩ := isSize_quotient small fun k hk => divisors k (List.mem_cons_of_mem d hk)
  obtain ⟨low, high⟩ := divisors d List.mem_cons_self
  have positive : 0 < d := Nat.lt_of_lt_of_le (by decide) low
  have units := units_ofNat positive high
  have some := magnitude_ne_zero_of_units (y := ofNat d)
    (units ▸ Nat.mul_pos positive unitsOfOne_pos)
  rw [quotient, size.div_eq (isSize_ofNat (Nat.lt_trans high (by decide))) some,
    magnitude_ofMagnitude _ (magnitudeOfUnits_lt _ _), units,
    magnitudeOfUnits_mul_mul _ _ unitsOfOne_pos]

theorem magnitude_quotient_mono (le : n ≤ p) (small : p < 2 ^ 64) (divisors : AreDivisors ds) :
    (quotient n ds).magnitude ≤ (quotient p ds).magnitude := by
  induction ds with
  | nil => exact magnitude_ofNat_le_of_le le
  | cons d ds ih =>
      have rest : AreDivisors ds := fun k hk => divisors k (List.mem_cons_of_mem d hk)
      rw [quotient_cons (Nat.lt_of_le_of_lt le small) divisors, quotient_cons small divisors]
      exact magnitudeOfUnits_mono (unitsOfMagnitude_mono (ih rest)) d

theorem magnitude_quotient_lt (small : n < 2 ^ 64) (divisors : AreDivisors ds) :
    (quotient n ds).magnitude < infinityBits :=
  of_decide_eq_true (isSize_quotient small divisors).1.finite

/-- Rounding at every step leaves a quotient near to the true one. -/
theorem near_quotient (positive : 0 < n) (small : n < 2 ^ 64) (divisors : AreDivisors ds)
    (few : ds.length ≤ 100) (product : ds.prod ≤ 2 ^ 100) :
    Near (2 * ds.length + 1) ((quotient n ds).units * ds.prod) (n * unitsOfOne) := by
  induction ds with
  | nil =>
      have large : fractions * 1 ≤ n * unitsOfOne :=
        Nat.le_trans (by decide +kernel) (Nat.le_mul_of_pos_left unitsOfOne positive)
      have finite := magnitude_quotient_lt small divisors
      rw [quotient, magnitude_ofNat] at finite
      have near := near_magnitudeOfUnits large Nat.one_pos finite
      rwa [← magnitude_ofNat] at near
  | cons d ds ih =>
      have rest : AreDivisors ds := fun k hk => divisors k (List.mem_cons_of_mem d hk)
      have some : 0 < d := Nat.lt_of_lt_of_le (by decide) (divisors d List.mem_cons_self).1
      rw [List.length_cons] at few
      rw [List.prod_cons] at product
      have near := ih rest (by omega)
        (Nat.le_trans (Nat.le_mul_of_pos_left _ some) product)
      have large : fractions * d ≤ (quotient n ds).units := by
        have whole : 0 < ds.prod := Nat.pos_of_ne_zero <|
          List.prod_ne_zero fun zero => absurd (rest 0 zero).1 (by decide)
        have half : n * unitsOfOne ≤ 2 * ((quotient n ds).units * ds.prod) :=
          near.le_two_mul (by omega)
        apply Nat.le_of_mul_le_mul_right _ (Nat.mul_pos Nat.two_pos whole)
        calc fractions * d * (2 * ds.prod) = 2 * fractions * (d * ds.prod) := by ring
          _ ≤ 2 * fractions * 2 ^ 100 := Nat.mul_le_mul_left _ product
          _ ≤ unitsOfOne := by decide +kernel
          _ ≤ n * unitsOfOne := Nat.le_mul_of_pos_left _ positive
          _ ≤ (quotient n ds).units * (2 * ds.prod) := by rwa [Nat.mul_left_comm]
      have step := near_magnitudeOfUnits large some
        (quotient_cons small divisors ▸ magnitude_quotient_lt small divisors)
      rw [← quotient_cons small divisors] at step
      have more := (step.mul_right ds.prod).trans near (by omega)
      rw [Nat.mul_assoc, ← List.prod_cons] at more
      have count : 1 + (2 * ds.length + 1) + 1 = 2 * (d :: ds).length + 1 := by
        rw [List.length_cons]
        omega
      rwa [count] at more

/-! ## Decimal places -/

/-- What a fixed count of decimal places shows of a number, counted in units of the last place. -/
def shown (places : Nat) (x : Binary64) : Nat :=
  divEven (x.units * 10 ^ places) unitsOfOne

theorem shown_quotient_mono (places : Nat) (le : n ≤ p) (small : p < 2 ^ 64)
    (divisors : AreDivisors ds) : shown places (quotient n ds) ≤ shown places (quotient p ds) :=
  divEven_mono
    (Nat.mul_le_mul_right _ (unitsOfMagnitude_mono (magnitude_quotient_mono le small divisors))) _

/-- So many parts of a unit are as near to the count as whole parts can be, give or take a
thousandth of a part. -/
def IsRounded (shown parts count unit : Nat) : Prop :=
  1000 * (shown * unit) ≤ 1000 * (parts * count) + 501 * unit ∧
    1000 * (parts * count) ≤ 1000 * (shown * unit) + 501 * unit

theorem isRounded_quotient (places : Nat) (positive : 0 < n) (small : n < 2 ^ 64)
    (divisors : AreDivisors ds) (few : ds.length ≤ 100) (product : ds.prod ≤ 2 ^ 100)
    (precise : 1000 * ((2 * ds.length + 1) * (10 ^ places * n)) ≤ 2 ^ 53 * ds.prod) :
    IsRounded (shown places (quotient n ds)) (10 ^ places) n ds.prod := by
  obtain ⟨above, below⟩ :=
    (near_quotient positive small divisors few product).mul_right (10 ^ places)
  obtain ⟨high, low⟩ := divEven_near ((quotient n ds).units * 10 ^ places) unitsOfOne_pos
  have some : 0 < 2 * 2 ^ 53 * unitsOfOne :=
    Nat.mul_pos (Nat.mul_pos Nat.two_pos (Nat.two_pow_pos 53)) unitsOfOne_pos
  have high := Nat.mul_le_mul_right (1000 * 2 ^ 53 * ds.prod) high
  have low := Nat.mul_le_mul_right (1000 * 2 ^ 53 * ds.prod) low
  have precise := Nat.mul_le_mul_right (2 * unitsOfOne) precise
  unfold IsRounded shown
  generalize 2 ^ 53 = E at *
  constructor <;> apply Nat.le_of_mul_le_mul_left _ some
  · linarith only [high, above, precise]
  · linarith only [low, below, precise]

theorem fixedText_zero (positive : x.isNegative = false) :
    x.fixedText 0 = decimalText (shown 0 x) := by
  simp [fixedText, positive, shown]

def tenthsText (tenths : Nat) : String :=
  decimalText (tenths / 10) ++ "." ++ decimalText (tenths % 10)

theorem fixedText_one (positive : x.isNegative = false) :
    x.fixedText 1 = tenthsText (shown 1 x) := by
  have digits (n : Nat) : 1 - (decimalText n).length = 0 := by
    have some : 0 < (Nat.toDigits 10 n).length := Nat.length_toDigits_pos
    rw [decimalText, String.length_ofList]
    omega
  simp [fixedText, positive, shown, tenthsText, digits, zeros]

end ModelDepot.Binary64
