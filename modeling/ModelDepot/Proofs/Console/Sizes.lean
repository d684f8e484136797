import ModelDepot.Console.Render
import ModelDepot.Proofs.Number.Rounding

/-! # Sizes and counts in words

A size is told in the largest unit that it reaches, to a tenth, and a count of parameters in
millions or, to a tenth, in billions. The unit is chosen first and the number is rounded to its
last digit afterwards. So just below the next unit the number is a thousand of the smaller one, and
up to half a million parameters are no millions.
-/

namespace ModelDepot.Console

open Binary64

variable {n p power : Nat}

/-! ## Thousands -/

/-- A count in a unit, every unit being a thousand of the one before. -/
def thousands (power n : Nat) : Binary64 :=
  quotient n (List.replicate power 1000)

theorem areDivisors_thousands (power : Nat) : AreDivisors (List.replicate power 1000) := by
  intro d hd
  rw [List.eq_of_mem_replicate hd]
  decide

theorem isSize_thousands (power : Nat) (small : n < 2 ^ 64) : (thousands power n).IsSize :=
  (isSize_quotient small (areDivisors_thousands power)).1

theorem shown_thousands_mono (power : Nat) (le : n ≤ p) (small : p < 2 ^ 64) :
    shown 1 (thousands power n) ≤ shown 1 (thousands power p) :=
  shown_quotient_mono 1 le small (areDivisors_thousands power)

theorem isRounded_thousands (reached : 1000 ^ power ≤ n) (small : n < 2 ^ 64) (few : power ≤ 3)
    (precise : 1000 * ((2 * power + 1) * (10 * n)) ≤ 2 ^ 53 * 1000 ^ power) :
    IsRounded (shown 1 (thousands power n)) 10 n (1000 ^ power) := by
  have product : (List.replicate power 1000).prod = 1000 ^ power := List.prod_replicate power 1000
  have below : 1000 ^ power ≤ 2 ^ 100 :=
    Nat.le_trans (Nat.pow_le_pow_right (by decide) few) (by decide)
  have near := isRounded_quotient 1
    (Nat.lt_of_lt_of_le (Nat.pow_pos (by decide)) reached) small (areDivisors_thousands power)
    (by rw [List.length_replicate]; omega) (by rwa [product])
    (by rwa [product, List.length_replicate])
  rwa [product] at near

/-- What never gets less as counts grow is reached from a first count on. -/
theorem le_iff_of_mono {f : Nat → Nat} (mono : ∀ {n p}, n ≤ p → p < 2 ^ 64 → f n ≤ f p)
    (last : Nat) {c : Nat} (below : f last < c) (above : c ≤ f (last + 1)) (fits : last < 2 ^ 64)
    (small : n < 2 ^ 64) : c ≤ f n ↔ last + 1 ≤ n := by
  constructor
  · intro reached
    by_contra less
    have bound := mono (Nat.le_of_not_lt less) fits
    omega
  · intro more
    exact Nat.le_trans above (mono more small)

theorem magnitude_limits (few : power < 3) :
    (thousands power (1000 ^ (power + 1) - 1)).magnitude < (ofNat 1000).magnitude ∧
      (ofNat 1000).magnitude ≤ (thousands power (1000 ^ (power + 1))).magnitude := by
  have powers : power = 0 ∨ power = 1 ∨ power = 2 := by omega
  rcases powers with rfl | rfl | rfl <;> decide +kernel

theorem reaches_iff (power : Nat) (few : power < 3) (small : n < 2 ^ 64) :
    (ofNat 1000).le (thousands power n) = true ↔ 1000 ^ (power + 1) ≤ n := by
  have mono {n p : Nat} (le : n ≤ p) (small : p < 2 ^ 64) :
      (thousands power n).magnitude ≤ (thousands power p).magnitude :=
    magnitude_quotient_mono le small (areDivisors_thousands power)
  have fits : 1000 ^ (power + 1) ≤ 2 ^ 64 :=
    Nat.le_trans (Nat.pow_le_pow_right (by decide) few) (by decide)
  have some : 0 < 1000 ^ (power + 1) := Nat.pow_pos (by decide)
  obtain ⟨below, above⟩ := magnitude_limits few
  rw [(isSize_ofNat (by decide)).le_iff (isSize_thousands power small)]
  generalize 1000 ^ (power + 1) = count at *
  obtain ⟨last, rfl⟩ := Nat.exists_eq_add_one.2 some
  exact le_iff_of_mono mono last below above fits small

/-! ## Sizes -/

theorem fixedText_thousands (power : Nat) (small : n < 2 ^ 64) :
    (thousands power n).fixedText 1 = tenthsText (shown 1 (thousands power n)) :=
  fixedText_one (isSize_thousands power small).positive

/-- A value ends up in the first unit that keeps it below a thousand, or in the last. -/
theorem scaledSize_thousands (power : Nat) (small : n < 2 ^ 64) (units : List String)
    (unit : String) (few : power + units.length ≤ 3) (reached : 1000 ^ power ≤ n) :
    ∃ k name, (unit :: units)[k]? = some name ∧
      scaledSize (thousands power n) unit units =
        tenthsText (shown 1 (thousands (power + k) n)) ++ " " ++ name ∧
      1000 ^ (power + k) ≤ n ∧ (k < units.length → n < 1000 ^ (power + k + 1)) := by
  induction units generalizing power unit with
  | nil =>
      refine ⟨0, unit, rfl, ?_, reached, nofun⟩
      rw [scaledSize, fixedText_thousands power small]
      rfl
  | cons next more ih =>
      rw [List.length_cons] at few
      by_cases beyond : 1000 ^ (power + 1) ≤ n
      · obtain ⟨k, name, named, text, least, most⟩ := ih (power + 1) next (by omega) beyond
        have again : power + 1 + k = power + (k + 1) := by omega
        rw [again] at text least most
        refine ⟨k + 1, name, named, ?_, least, fun before => most (Nat.lt_of_succ_lt_succ before)⟩
        rw [scaledSize, if_pos ((reaches_iff power (by omega) small).2 beyond)]
        exact text
      · refine ⟨0, unit, rfl, ?_, reached, fun _ => Nat.lt_of_not_le beyond⟩
        have stays := mt (reaches_iff power (by omega) small).1 beyond
        rw [scaledSize, if_neg stays, fixedText_thousands power small]
        rfl

/-- A number of tenths that stands for a size in a unit. -/
structure InUnit (size power tenths : Nat) (unit : String) : Prop where
  named : (power, unit) ∈ [(1, "KB"), (2, "MB"), (3, "GB")]
  reached : 1000 ^ power ≤ size
  first : power < 3 → size < 1000 ^ (power + 1)
  rounded : IsRounded tenths 10 size (1000 ^ power)
  least : 10 ≤ tenths
  most : power < 3 → tenths ≤ 10000
  /-- It is a thousand of the unit from half a tenth below the next unit on. -/
  full : power < 3 → (tenths = 10000 ↔ 19999 * 1000 ^ power ≤ 20 * size)

/-- The numbers shown at both ends of a unit, and where they become a thousand. -/
theorem shown_limits (some : 0 < power) (few : power < 3) :
    ∃ last, shown 1 (thousands power last) < 10000 ∧
      10000 ≤ shown 1 (thousands power (last + 1)) ∧
      shown 1 (thousands power (1000 ^ (power + 1) - 1)) ≤ 10000 ∧
      last < 1000 ^ (power + 1) ∧ 1000 ^ (power + 1) ≤ 2 ^ 64 ∧
      20 * last < 19999 * 1000 ^ power ∧ 19999 * 1000 ^ power ≤ 20 * (last + 1) :=
  match power, some, few with
  | 1, _, _ => ⟨999949, by decide +kernel⟩
  | 2, _, _ => ⟨999949999, by decide +kernel⟩

theorem shown_le_thousand (some : 0 < power) (few : power < 3)
    (inside : n < 1000 ^ (power + 1)) : shown 1 (thousands power n) ≤ 10000 := by
  obtain ⟨_, _, _, top, _, fits, _⟩ := shown_limits some few
  exact Nat.le_trans
    (shown_thousands_mono power (Nat.le_sub_one_of_lt inside) (by omega)) top

theorem shown_eq_thousand_iff (some : 0 < power) (few : power < 3)
    (inside : n < 1000 ^ (power + 1)) :
    shown 1 (thousands power n) = 10000 ↔ 19999 * 1000 ^ power ≤ 20 * n := by
  have most := shown_le_thousand some few inside
  obtain ⟨last, below, above, _, low, fits, _, _⟩ := shown_limits some few
  have turn : 10000 ≤ shown 1 (thousands power n) ↔ last + 1 ≤ n :=
    le_iff_of_mono (f := fun n => shown 1 (thousands power n)) (shown_thousands_mono power) last
      below above (by omega) (by omega)
  omega

theorem inUnit_thousands {unit : String}
    (named : (power, unit) ∈ [(1, "KB"), (2, "MB"), (3, "GB")]) (reached : 1000 ^ power ≤ n)
    (first : power < 3 → n < 1000 ^ (power + 1)) (small : n < 2 ^ 64) :
    InUnit n power (shown 1 (thousands power n)) unit := by
  have powers : power = 1 ∨ power = 2 ∨ power = 3 := by
    simp only [List.mem_cons, Prod.mk.injEq, List.not_mem_nil, or_false] at named
    omega
  have some : 0 < power := by omega
  have precise : 1000 * ((2 * power + 1) * (10 * n)) ≤ 2 ^ 53 * 1000 ^ power := by
    rcases powers with rfl | rfl | rfl <;> omega
  have start : 10 ≤ shown 1 (thousands power (1000 ^ power)) := by
    rcases powers with rfl | rfl | rfl <;> decide +kernel
  exact {
    named, reached, first
    rounded := isRounded_thousands reached small (by omega) precise
    least := Nat.le_trans start (shown_thousands_mono power reached small)
    most := fun few => shown_le_thousand some few (first few)
    full := fun few => shown_eq_thousand_iff some few (first few) }

/-! ## Parameters -/

/-- A number of millions that stands for a count. -/
structure InMillions (count millions : Nat) : Prop where
  rounded : IsRounded millions 1 count (10 ^ 6)
  /-- There are none up to half a million. -/
  none : millions = 0 ↔ 2 * count ≤ 10 ^ 6
  most : millions ≤ 1000
  /-- There are a thousand from half a million below a billion on. -/
  full : millions = 1000 ↔ 1999 * 10 ^ 6 ≤ 2 * count

/-- A number of tenths of a billion that stands for a count. -/
structure InBillions (count tenths : Nat) : Prop where
  rounded : IsRounded tenths 10 count (10 ^ 9)
  least : 10 ≤ tenths

theorem areDivisors_million : AreDivisors [1000000] := by
  rintro d (_ | ⟨_, ⟨⟩⟩)
  decide

theorem areDivisors_billion : AreDivisors [1000000000] := by
  rintro d (_ | ⟨_, ⟨⟩⟩)
  decide

theorem inMillions_quotient (some : 0 < n) (below : n < 10 ^ 9) :
    InMillions n (shown 0 (quotient n [1000000])) := by
  have mono {n p : Nat} (le : n ≤ p) (small : p < 2 ^ 64) :
      shown 0 (quotient n [1000000]) ≤ shown 0 (quotient p [1000000]) :=
    shown_quotient_mono 0 le small areDivisors_million
  have small : n < 2 ^ 64 := Nat.lt_trans below (by decide)
  have rounded := isRounded_quotient 0 some small areDivisors_million (by decide)
    (by decide)
    (by simp only [List.length_singleton, List.prod_singleton]; omega)
  rw [List.prod_singleton] at rounded
  have one : 1 ≤ shown 0 (quotient n [1000000]) ↔ 500000 + 1 ≤ n :=
    le_iff_of_mono mono 500000 (by decide +kernel) (by decide +kernel) (by decide) small
  have full : 1000 ≤ shown 0 (quotient n [1000000]) ↔ 999499999 + 1 ≤ n :=
    le_iff_of_mono mono 999499999 (by decide +kernel) (by decide +kernel) (by decide) small
  have most : shown 0 (quotient n [1000000]) ≤ 1000 := by
    have top : shown 0 (quotient 999999999 [1000000]) ≤ 1000 := by decide +kernel
    exact Nat.le_trans (mono (Nat.le_of_lt_succ below) (by decide)) top
  exact ⟨rounded, by omega, most, by omega⟩

theorem inBillions_quotient (large : 10 ^ 9 ≤ n) (small : n < 2 ^ 64) :
    InBillions n (shown 1 (quotient n [1000000000])) := by
  have rounded := isRounded_quotient 1 (Nat.lt_of_lt_of_le (by decide) large) small
    areDivisors_billion (by decide) (by decide)
    (by simp only [List.length_singleton, List.prod_singleton]; omega)
  rw [List.prod_singleton] at rounded
  have first : 10 ≤ shown 1 (quotient (10 ^ 9) [1000000000]) := by decide +kernel
  exact ⟨rounded, Nat.le_trans first (shown_quotient_mono 1 large small areDivisors_billion)⟩

/-! ## The texts -/

/-- What is told of a count, as a size in bytes and as a count of parameters. -/
structure Told (count : UInt64) : Prop where
  bytes : count.toNat < 1000 → size count = decimalText count.toNat ++ " B"
  units : 1000 ≤ count.toNat → ∃ power tenths unit, InUnit count.toNat power tenths unit ∧
    size count = tenthsText tenths ++ " " ++ unit
  nothing : count.toNat = 0 → parameters count = "-"
  millions : 0 < count.toNat → count.toNat < 10 ^ 9 → ∃ millions,
    InMillions count.toNat millions ∧ parameters count = decimalText millions ++ "M"
  billions : 10 ^ 9 ≤ count.toNat → ∃ tenths,
    InBillions count.toNat tenths ∧ parameters count = tenthsText tenths ++ "B"

theorem mem_of_named {k : Nat} {name : String} (named : ("B" :: sizeUnits)[k]? = some name)
    (beyond : k ≠ 0) : (k, name) ∈ [(1, "KB"), (2, "MB"), (3, "GB")] :=
  match k, named, beyond with
  | 0, _, beyond => absurd rfl beyond
  | 1, rfl, _ | 2, rfl, _ | 3, rfl, _ => by decide

theorem size_eq (count : UInt64) :
    size count = if 1000 ≤ count.toNat then scaledSize (thousands 0 count.toNat) "B" sizeUnits
      else decimalText count.toNat ++ " B" := by
  have reaches := reaches_iff 0 (by decide) count.toNat_lt
  rw [Nat.zero_add, Nat.pow_one] at reaches
  rw [← if_congr reaches rfl rfl]
  rfl

theorem parameters_eq (count : UInt64) :
    parameters count =
      if count.toNat = 0 then "-"
      else if 10 ^ 9 ≤ count.toNat then
        (quotient count.toNat [1000000000]).fixedText 1 ++ "B"
      else (quotient count.toNat [1000000]).fixedText 0 ++ "M" := rfl

/-- Every count is told in its unit and rounded to the last digit of it. -/
theorem counts_are_told (count : UInt64) : Told count where
  bytes few := by rw [size_eq, if_neg (Nat.not_le.2 few)]
  units many := by
    obtain ⟨power, unit, named, text, reached, first⟩ :=
      scaledSize_thousands 0 count.toNat_lt sizeUnits "B" (by decide)
        (Nat.le_trans (by decide) many)
    rw [Nat.zero_add] at text reached first
    have beyond : power ≠ 0 := by
      rintro rfl
      exact absurd many (Nat.not_le.2 (first (by decide)))
    refine ⟨power, _, unit,
      inUnit_thousands (mem_of_named named beyond) reached first count.toNat_lt, ?_⟩
    rw [size_eq, if_pos many, text]
  nothing zero := by rw [parameters_eq, if_pos zero]
  millions some below := by
    refine ⟨_, inMillions_quotient some below, ?_⟩
    have positive := (isSize_quotient count.toNat_lt areDivisors_million).1.positive
    rw [parameters_eq, if_neg (Nat.ne_of_gt some), if_neg (Nat.not_le.2 below),
      fixedText_zero positive]
  billions large := by
    refine ⟨_, inBillions_quotient large count.toNat_lt, ?_⟩
    have positive := (isSize_quotient count.toNat_lt areDivisors_billion).1.positive
    rw [parameters_eq, if_neg (by omega), if_pos large, fixedText_one positive]

/-- A size is told as a thousand of the smaller unit, a parameter as none and a count as a thousand
millions. -/
theorem rounded_numbers_leave_their_unit :
    size 999999 = "1000.0 KB" ∧ parameters 1 = "0M" ∧ parameters 999999999 = "1000M" := by
  decide +kernel

end ModelDepot.Console
