import ModelDepot.Proofs.Json.Yielding

/-! # The numbers of a text

However a number is written, it is read as an integer of 64 bits or as a finite floating-point
number, or not at all. So every value that is read from a text is a proper one.
-/

namespace ModelDepot.Json

open Binary64

theorem isFinite_powerOfTen {k : Nat} (h : k ≤ 308) : (powerOfTen k).isFinite = true := by
  rcases Nat.lt_or_eq_of_le h with below | rfl
  · have grows : ∀ j, k ≤ j → Nat.pow 10 k ≤ Nat.pow 10 j :=
      fun j => Nat.pow_le_pow_right (by decide)
    have small : Nat.pow 10 k < Nat.pow 2 1022 :=
      Nat.lt_of_le_of_lt (grows 307 (by omega)) (by decide +kernel)
    have few := log2_mul_unitsOfOne_le small
    have finite : magnitudeOfUnits (Nat.pow 10 k * unitsOfOne) 1 < infinityBits := by
      apply magnitudeOfUnits_lt_infinityBits
      omega
    rw [powerOfTen, Binary64.ofNat, ofRatio, isFinite,
      magnitude_ofMagnitude _ (Nat.lt_trans finite (by decide))]
    exact decide_eq_true finite
  · decide +kernel

theorem units_powerOfTen_le {k : Nat} (some : 0 < k) (h : k ≤ 308) :
    4 * unitsOfOne ≤ (powerOfTen k).units := by
  have ten : Nat.pow 10 1 ≤ Nat.pow 10 k := Nat.pow_le_pow_right (by decide) some
  rw [Nat.pow_eq, Nat.pow_one] at ten
  have rounded := le_two_mul_units_ofNat (n := Nat.pow 10 k) (by omega) (isFinite_powerOfTen h)
  have large : 10 * unitsOfOne ≤ Nat.pow 10 k * unitsOfOne := Nat.mul_le_mul_right _ ten
  simp only [powerOfTen]
  omega

theorem magnitude_scaleDown_le {x : Binary64} {e k : Nat} (hx : x.magnitude ≤ e * fractions)
    (some : 2 ≤ e) (few : e < 2047) (hk : 0 < k) : (scaleDown x k).magnitude ≤ e * fractions := by
  fun_induction scaleDown x k with
  | case1 x k zero => exact hx
  | case2 x k _ small =>
      exact magnitude_div_le hx some few (isFinite_powerOfTen small) (units_powerOfTen_le hk small)
  | case3 x k _ large ih =>
      have finite := isFinite_powerOfTen (Nat.le_refl 308)
      have much := units_powerOfTen_le (by decide) (Nat.le_refl 308)
      exact ih (magnitude_div_le hx some few finite much) (by omega)

theorem isFinite_of_scaled {coefficient : Nat} {exponent : Int} {x : Binary64}
    (small : coefficient < UInt64.size) (h : scaled coefficient exponent = some x) :
    x.isFinite = true := by
  have most : (ofNat coefficient).magnitude ≤ (64 + 1024) * fractions := magnitude_ofNat_le small
  simp only [scaled] at h
  split at h
  · next down =>
      cases h
      have scaledDown := magnitude_scaleDown_le most (by decide) (by decide)
        (k := exponent.natAbs) (by omega)
      exact isFinite_of_magnitude_le scaledDown (by decide)
  · split at h
    · cases h
      exact isFinite_of_magnitude_le most (by decide)
    · split at h
      · cases h
      · split at h
        · next finite =>
            cases h
            exact finite
        · cases h

/-! ## Numbers -/

/-- A number that was read is as JSON has them. -/
def GivesProper (r : Except Misread (Number × List Char)) : Prop :=
  ∀ n left, r = .ok (n, left) → n.IsProper

theorem givesProper_misread {fault : SyntaxFault} {rest : List Char} :
    GivesProper (misread fault rest) :=
  nofun

theorem givesProper_misreadAt {fault : SyntaxFault} {rest : List Char} :
    GivesProper (misreadAt fault rest) :=
  nofun

theorem GivesProper.ite {c : Prop} [Decidable c] {r r' : Except Misread (Number × List Char)}
    (h : GivesProper r) (h' : GivesProper r') : GivesProper (if c then r else r') := by
  split
  · exact h
  · exact h'

variable {negative : Bool} {coefficient : Nat} {exponent : Int} {cs rest : List Char}

theorem absorb_lt (small : coefficient < UInt64.size) (ds : List Char) :
    (absorb coefficient ds).1 < UInt64.size := by
  induction ds generalizing coefficient with
  | nil => exact small
  | cons d ds ih =>
      simp only [absorb]
      split
      · next fits => exact ih fits
      · exact small

theorem floatBefore_proper (small : coefficient < UInt64.size) :
    GivesProper (floatBefore negative coefficient exponent rest) := by
  intro n left h
  simp only [floatBefore] at h
  split at h
  · next x given =>
      have finite := isFinite_of_scaled small given
      cases h
      cases negative
      · exact finite
      · exact (isFinite_neg x).trans finite
  · cases h

theorem readExponentDigits_proper (small : coefficient < UInt64.size) (down : Bool) :
    GivesProper (readExponentDigits negative coefficient exponent down cs) := by
  simp only [readExponentDigits]
  split
  · exact givesProper_misread
  · split
    · exact givesProper_misreadAt
    · split
      · exact floatBefore_proper small
      · exact givesProper_misread.ite (floatBefore_proper (by decide))

theorem readExponent_proper (small : coefficient < UInt64.size) :
    GivesProper (readExponent negative coefficient exponent cs) := by
  simp only [readExponent]
  split
  · exact readExponentDigits_proper small false
  · exact readExponentDigits_proper small true
  · exact readExponentDigits_proper small false

theorem readFraction_proper (small : coefficient < UInt64.size) :
    GivesProper (readFraction negative coefficient exponent cs) := by
  simp only [readFraction]
  split
  · split
    · exact givesProper_misread
    · exact givesProper_misreadAt
  · have whole := absorb_lt small (cs.takeWhile Char.isDigit)
    simp only [readScale]
    split
    · exact readExponent_proper whole
    · exact readExponent_proper whole
    · exact floatBefore_proper whole

theorem wholeNumber_proper (small : coefficient < UInt64.size) :
    (wholeNumber negative coefficient).IsProper := by
  simp only [wholeNumber]
  unfold UInt64.size at small
  split
  · simp only [Number.IsProper]
    omega
  · split
    · have most : (ofNat coefficient).magnitude ≤ (64 + 1024) * fractions :=
        magnitude_ofNat_le small
      simp only [Number.IsProper, isFinite_neg]
      exact isFinite_of_magnitude_le most (by decide)
    · simp only [Number.IsProper]
      omega

theorem readNumber_proper : GivesProper (readNumber negative cs) := by
  have none : 0 < UInt64.size := by decide
  cases cs with
  | nil => exact givesProper_misread
  | cons c rest =>
    simp only [readNumber]
    generalize (if c = '0' then [c] else (c :: rest).takeWhile Char.isDigit) = digits
    generalize (if c = '0' then rest else (c :: rest).dropWhile Char.isDigit) = behind
    split
    · exact givesProper_misreadAt
    · split
      · exact givesProper_misreadAt
      · split
        · exact readFraction_proper (absorb_lt none _)
        · exact readExponent_proper (absorb_lt none _)
        · exact readExponent_proper (absorb_lt none _)
        · split
          · rintro n left ⟨⟩
            exact wholeNumber_proper (absorb_lt none _)
          · exact floatBefore_proper (absorb_lt none _)

/-! ## Values -/

theorem mem_insertMember {key : String} {v : Json} {members : List (String × Json)}
    {m : String × Json} (h : m ∈ insertMember key v members) : m = (key, v) ∨ m ∈ members := by
  induction members with
  | nil => exact .inl (List.mem_singleton.1 h)
  | cons first members ih =>
      simp only [insertMember] at h
      split at h
      · exact List.mem_cons.1 h
      · split at h
        · exact (List.mem_cons.1 h).imp_right (List.mem_cons_of_mem first)
        · rcases List.mem_cons.1 h with rfl | later
          · exact .inr List.mem_cons_self
          · exact (ih later).imp_right (List.mem_cons_of_mem first)

theorem mem_of_sortMembers {members : List (String × Json)} {m : String × Json}
    (h : m ∈ sortMembers members) : m ∈ members := by
  induction members using List.reverseRecOn with
  | nil => cases h
  | append_singleton members last ih =>
      simp only [sortMembers, List.foldl_append, List.foldl_cons, List.foldl_nil] at h
      rcases mem_insertMember h with rfl | earlier
      · simp
      · exact List.mem_append_left _ (ih earlier)

/-- With some fuel, readers give proper values. -/
structure ReadsProper (fuel : Nat) : Prop where
  value : ∀ depth cs v left, readValue fuel depth cs = .ok (v, left) → v.IsProper
  items : ∀ depth first acc cs found left, (∀ v ∈ acc, IsProper v) →
    readItems fuel depth first acc cs = .ok (found, left) → ∀ v ∈ found, v.IsProper
  members : ∀ depth first acc cs found left, (∀ m ∈ acc, IsProper m.2) →
    readMembers fuel depth first acc cs = .ok (found, left) → ∀ m ∈ found, m.2.IsProper

section Steps

variable {fuel depth : Nat} {first : Bool} {left : List Char}

theorem ReadsProper.value_succ (ih : ReadsProper fuel) {v : Json}
    (h : readValue (fuel + 1) depth cs = .ok (v, left)) : v.IsProper := by
  rw [readValue] at h
  split at h
  · simp [misreadAt] at h
  · next c rest _ =>
      split at h
      · obtain ⟨_, _, h⟩ := bind_eq_ok_iff.1 h
        cases h
        exact .null
      · obtain ⟨_, _, h⟩ := bind_eq_ok_iff.1 h
        cases h
        exact .bool true
      · obtain ⟨_, _, h⟩ := bind_eq_ok_iff.1 h
        cases h
        exact .bool false
      · obtain ⟨⟨n, _⟩, read, h⟩ := bind_eq_ok_iff.1 h
        cases h
        exact .number (readNumber_proper _ _ read)
      · obtain ⟨⟨s, _⟩, _, h⟩ := bind_eq_ok_iff.1 h
        cases h
        exact .string s
      · split at h
        · simp [misreadAt] at h
        · obtain ⟨⟨items, _⟩, read, h⟩ := bind_eq_ok_iff.1 h
          cases h
          exact .array (ih.items _ _ _ _ _ _ (by simp) read)
      · split at h
        · simp [misreadAt] at h
        · obtain ⟨⟨members, _⟩, read, h⟩ := bind_eq_ok_iff.1 h
          cases h
          have proper := ih.members _ _ _ _ _ _ (by simp) read
          exact .object fun m inside => proper m (mem_of_sortMembers inside)
      · split at h
        · obtain ⟨⟨n, _⟩, read, h⟩ := bind_eq_ok_iff.1 h
          cases h
          exact .number (readNumber_proper _ _ read)
        · simp [misreadAt] at h

theorem ReadsProper.items_succ (ih : ReadsProper fuel) {acc found : List Json}
    (proper : ∀ v ∈ acc, v.IsProper)
    (h : readItems (fuel + 1) depth first acc cs = .ok (found, left)) :
    ∀ v ∈ found, v.IsProper := by
  rw [readItems] at h
  split at h
  · simp [misreadAt] at h
  · cases h
    simpa using proper
  · split at h
    · obtain ⟨⟨item, rest⟩, read, h⟩ := bind_eq_ok_iff.1 h
      have first := ih.value _ _ _ _ read
      exact ih.items _ _ _ _ _ _ (List.forall_mem_cons.2 ⟨first, proper⟩) h
    · split at h
      · simp [misreadAt] at h
      · split at h
        · simp [misreadAt] at h
        · simp [misreadAt] at h
        · obtain ⟨⟨item, rest⟩, read, h⟩ := bind_eq_ok_iff.1 h
          have first := ih.value _ _ _ _ read
          exact ih.items _ _ _ _ _ _ (List.forall_mem_cons.2 ⟨first, proper⟩) h

theorem ReadsProper.members_succ (ih : ReadsProper fuel) {acc found : List (String × Json)}
    (proper : ∀ m ∈ acc, m.2.IsProper)
    (h : readMembers (fuel + 1) depth first acc cs = .ok (found, left)) :
    ∀ m ∈ found, m.2.IsProper := by
  -- behind the key of a member comes its value, whether or not it is the first member
  have goesOn : ∀ rest, (do
      let key ← readString fuel rest
      let rest ← readColon key.2
      let value ← readValue fuel depth rest
      readMembers fuel depth false ((key.1, value.1) :: acc) value.2) = .ok (found, left) →
      ∀ m ∈ found, m.2.IsProper := by
    intro rest h
    obtain ⟨key, _, h⟩ := bind_eq_ok_iff.1 h
    obtain ⟨_, _, h⟩ := bind_eq_ok_iff.1 h
    obtain ⟨value, read, h⟩ := bind_eq_ok_iff.1 h
    have first := ih.value _ _ _ _ read
    exact ih.members _ _ _ _ _ _ (List.forall_mem_cons.2 ⟨first, proper⟩) h
  rw [readMembers] at h
  split at h
  · simp [misreadAt] at h
  · cases h
    simpa using proper
  · split at h
    · split at h
      · simp [misreadAt] at h
      · exact goesOn _ h
    · split at h
      · simp [misreadAt] at h
      · split at h
        · simp [misreadAt] at h
        · simp [misreadAt] at h
        · exact goesOn _ h
        · simp [misreadAt] at h

end Steps

theorem readsProper (fuel : Nat) : ReadsProper fuel := by
  induction fuel with
  | zero =>
      constructor
      · intro depth cs v left h
        simp [readValue, misread] at h
      · intro depth first acc cs found left _ h
        simp [readItems, misread] at h
      · intro depth first acc cs found left _ h
        simp [readMembers, misread] at h
  | succ fuel ih =>
      exact ⟨fun _ _ _ _ h => ih.value_succ h, fun _ _ _ _ _ _ proper h => ih.items_succ proper h,
        fun _ _ _ _ _ _ proper h => ih.members_succ proper h⟩

theorem isProper_of_read {s : String} {v : Json} (h : read s = .ok v) : v.IsProper := by
  obtain ⟨left, given, -⟩ := (read_eq_ok_iff s v).1 h
  exact (readsProper _).value _ _ _ _ given

end ModelDepot.Json
