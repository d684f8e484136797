import ModelDepot.Proofs.Json.ReadBack
import ModelDepot.Proofs.Number.Whole

/-! # Whole numbers as JSON

A whole number is written as a floating-point number with a zero behind the point. What is read is
ten times the number and a power of ten, which divides without rounding.
-/

namespace ModelDepot.Json

open Binary64

variable {n coefficient : Nat} {digits : List Char}

theorem le_ofDigitChars (digits : List Char) (coefficient : Nat) :
    coefficient ≤ Nat.ofDigitChars 10 digits coefficient := by
  rw [Nat.ofDigitChars_eq_ofDigitChars_zero]
  have := Nat.le_mul_of_pos_left coefficient (Nat.pow_pos (by decide : 0 < 10) (n := digits.length))
  omega

theorem absorb_of_lt (h : Nat.ofDigitChars 10 digits coefficient < UInt64.size) :
    absorb coefficient digits = (Nat.ofDigitChars 10 digits coefficient, []) := by
  induction digits generalizing coefficient with
  | nil => rfl
  | cons d digits ih =>
      have next : 10 * coefficient + (d.toNat - '0'.toNat) = coefficient * 10 + digitValue d := by
        rw [Nat.mul_comm, digitValue]
      rw [Nat.ofDigitChars_cons, next] at h ⊢
      have fits := Nat.lt_of_le_of_lt (le_ofDigitChars digits _) h
      rw [absorb]
      simp only [fits, if_true]
      exact ih h

theorem exists_head_toDigits (positive : 0 < n) :
    ∃ c digits, Nat.toDigits 10 n = c :: digits ∧ c.isDigit = true ∧ c ≠ '0' := by
  induction n using Nat.base_induction 10 (by decide) with
  | single n small =>
      refine ⟨n.digitChar, [], Nat.toDigits_of_lt_base small, ?_⟩
      have all : ∀ n < 10, 0 < n → n.digitChar.isDigit = true ∧ n.digitChar ≠ '0' := by decide
      exact all n small positive
  | digit n d small some ih =>
      obtain ⟨c, digits, head, digit⟩ := ih some
      rw [← Nat.toDigits_append_toDigits (by decide) some small, head]
      exact ⟨c, digits ++ Nat.toDigits 10 d, rfl, digit⟩

/-- The digits of a number end at a point, and none of them is a zero too many in front. -/
theorem readNumber_toDigits (n : Nat) (fraction : List Char) :
    readNumber false (Nat.toDigits 10 n ++ '.' :: fraction) =
      afterWhole false (absorb 0 (Nat.toDigits 10 n)) ('.' :: fraction) := by
  rcases Nat.eq_zero_or_pos n with rfl | positive
  · rw [Nat.toDigits_zero]
    rfl
  · have all : ∀ c ∈ Nat.toDigits 10 n, c.isDigit = true := by
      intro c hc
      exact Nat.isDigit_of_mem_toDigits (by decide) (by decide) hc
    obtain ⟨c, digits, head, digit, some⟩ := exists_head_toDigits positive
    have taken : (Nat.toDigits 10 n ++ '.' :: fraction).takeWhile Char.isDigit =
        Nat.toDigits 10 n ++ ('.' :: fraction).takeWhile Char.isDigit :=
      List.takeWhile_append_of_pos all
    have dropped : (Nat.toDigits 10 n ++ '.' :: fraction).dropWhile Char.isDigit =
        ('.' :: fraction).dropWhile Char.isDigit :=
      List.dropWhile_append_of_pos all
    rw [head, List.cons_append] at taken dropped ⊢
    rw [readNumber_cons, taken, dropped]
    simp [digit, some]

/-! ## What stands behind the point -/

theorem scaled_tenfold (small : 10 * n < 2 ^ 53) : scaled (10 * n) (-1) = some (ofNat n) := by
  have ten : powerOfTen 1 = ofNat 10 := rfl
  have down : scaleDown (ofNat (10 * n)) 1 = ofNat n := by
    rw [scaleDown]
    rcases Nat.eq_zero_or_pos n with rfl | positive
    · rw [Nat.mul_zero, if_pos magnitude_ofNat_zero]
    · obtain ⟨_, _, whole⟩ := exists_isWhole (Nat.mul_pos (by decide) positive) small
      rw [if_neg (Nat.ne_of_gt whole.pos), if_pos (by decide), ten,
        div_ofNat (by decide) positive small]
  simp [scaled, down]

theorem readFraction_zero (small : 10 * n < 2 ^ 53) :
    readFraction false n 0 ['0'] = .ok (.float (ofNat n), []) := by
  have tenfold : absorb n ['0'] = (10 * n, []) := by
    have fits : Nat.ofDigitChars 10 ['0'] n < UInt64.size := by
      show 10 * n + 0 < 2 ^ 64
      omega
    exact absorb_of_lt fits
  simp [readFraction, tenfold, readScale, floatBefore, scaled_tenfold small]

theorem readsBack_ofNat (small : 10 * n < 2 ^ 53) : (Number.float (ofNat n)).ReadsBack := by
  apply Number.ReadsBack.unsigned
  have text : (Number.float (ofNat n)).text.toList = Nat.toDigits 10 n ++ ['.', '0'] := by
    rw [Number.text, shortestText_ofNat (by omega)]
    simp [decimalText]
  have whole : absorb 0 (Nat.toDigits 10 n) = (n, []) := by
    have value : Nat.ofDigitChars 10 (Nat.toDigits 10 n) 0 = n := Nat.ofDigitChars_ten_toDigits
    have fits : Nat.ofDigitChars 10 (Nat.toDigits 10 n) 0 < UInt64.size := by
      rw [value, UInt64.size]
      omega
    rw [absorb_of_lt fits, value]
  rw [text, readNumber_toDigits, whole]
  exact readFraction_zero small

end ModelDepot.Json
