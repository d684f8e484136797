import ModelDepot.Number.Binary64

/-! # Numbers and their bits

Floating-point numbers compare by their rank. Two that are equal as numbers have the same bits but
for one case: zero has two signs.
-/

namespace ModelDepot.Binary64

variable {x y low high : Binary64}

def negZero : Binary64 := ofMagnitude true 0

theorem eqNumber_iff :
    x.eqNumber y = true ↔ x.isNaN = false ∧ y.isNaN = false ∧ x.rank = y.rank := by
  simp [eqNumber, and_assoc]

theorem le_iff : x.le y = true ↔ x.isNaN = false ∧ y.isNaN = false ∧ x.rank ≤ y.rank := by
  simp [le, and_assoc]

theorem eqNumber_self (hx : x.isNaN = false) : x.eqNumber x = true :=
  eqNumber_iff.2 ⟨hx, hx, rfl⟩

theorem eqNumber_comm (x y : Binary64) : x.eqNumber y = y.eqNumber x := by
  rw [Bool.eq_iff_iff, eqNumber_iff, eqNumber_iff]
  constructor <;> exact fun ⟨hx, hy, same⟩ => ⟨hy, hx, same.symm⟩

theorem toNat_bits (x : Binary64) :
    x.bits.toNat = x.magnitude + if x.isNegative then signBit else 0 := by
  have fits := x.bits.toNat_lt
  cases sign : x.isNegative with
  | false =>
      have below : ¬ signBit ≤ x.bits.toNat := of_decide_eq_false sign
      simp only [magnitude, signBit, Bool.false_eq_true, if_false] at below ⊢
      omega
  | true =>
      have above : signBit ≤ x.bits.toNat := of_decide_eq_true sign
      simp only [magnitude, signBit, if_true] at above ⊢
      omega

theorem eq_of_toNat_bits (h : x.bits.toNat = y.bits.toNat) : x = y := by
  cases x
  cases y
  simpa [UInt64.toNat_inj] using h

theorem eq_zero_or_negZero (h : x.magnitude = 0) : x = zero ∨ x = negZero := by
  have bits := toNat_bits x
  rw [h] at bits
  cases sign : x.isNegative with
  | false => exact .inl (eq_of_toNat_bits (by rw [bits, sign]; rfl))
  | true => exact .inr (eq_of_toNat_bits (by rw [bits, sign]; rfl))

theorem eq_or_zeros_of_rank_eq (h : x.rank = y.rank) :
    x = y ∨ x.magnitude = 0 ∧ y.magnitude = 0 := by
  have hx := toNat_bits x
  have hy := toNat_bits y
  unfold rank at h
  cases sx : x.isNegative <;> cases sy : y.isNegative <;> simp only [sx, sy] at h hx hy
  · exact .inl (eq_of_toNat_bits (by simp at h; omega))
  · exact .inr (by simp at h; omega)
  · exact .inr (by simp at h; omega)
  · exact .inl (eq_of_toNat_bits (by simp at h; omega))

/-- Two numbers that are equal and not the same are the two zeros. -/
theorem zeros_of_eqNumber (h : x.eqNumber y = true) (differ : x ≠ y) :
    x = zero ∧ y = negZero ∨ x = negZero ∧ y = zero := by
  obtain ⟨_, _, same⟩ := eqNumber_iff.1 h
  rcases eq_or_zeros_of_rank_eq same with equal | ⟨hx, hy⟩
  · exact absurd equal differ
  rcases eq_zero_or_negZero hx with rfl | rfl <;> rcases eq_zero_or_negZero hy with rfl | rfl
  · exact absurd rfl differ
  · exact .inl ⟨rfl, rfl⟩
  · exact .inr ⟨rfl, rfl⟩
  · exact absurd rfl differ

theorem clamp_within (hx : x.isNaN = false) (bounds : low.le high = true) :
    low.le (x.clamp low high) = true ∧ (x.clamp low high).le high = true := by
  obtain ⟨hl, hh, ordered⟩ := le_iff.1 bounds
  have self : x.clamp low high = if x.rank < low.rank then low
      else if high.rank < x.rank then high else x := by
    simp [clamp, lt, hx, hl, hh]
  rw [self, le_iff, le_iff]
  split
  · exact ⟨⟨hl, hl, Int.le_refl _⟩, hl, hh, ordered⟩
  split
  · exact ⟨⟨hl, hh, ordered⟩, hh, hh, Int.le_refl _⟩
  · exact ⟨⟨hl, hx, by omega⟩, hx, hh, by omega⟩

end ModelDepot.Binary64
