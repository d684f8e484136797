import ModelDepot.Text.Lossy

/-! # Nothing is lost of a text

The bytes of a text are UTF-8, so none of its characters is replaced when they are read.
-/

namespace ModelDepot.Text

section Steps

variable {first bits code fuel more low high value : Nat} {bytes rest : List Nat}

theorem continuation_of_two (hl : 0xc2 ≤ first) (hh : first ≤ 0xdf) :
    continuation first = some (1, 0x80, 0xbf) := by
  rw [continuation, if_pos ⟨hl, hh⟩]

/-- The second byte of three is bounded such that there is no shorter way to write the character
and such that it is none of a surrogate pair. -/
theorem continuation_of_three (hl : 0xe0 ≤ first) (hh : first ≤ 0xef) :
    continuation first =
      some (2, if first = 0xe0 then 0xa0 else 0x80, if first = 0xed then 0x9f else 0xbf) := by
  unfold continuation
  grind

theorem continuation_of_four (hl : 0xf0 ≤ first) (hh : first ≤ 0xf4) :
    continuation first =
      some (3, if first = 0xf0 then 0x90 else 0x80, if first = 0xf4 then 0x8f else 0xbf) := by
  unfold continuation
  grind

theorem takeMore_cons (hb : bits < 64) (hl : low ≤ bits + 0x80) (hh : bits + 0x80 ≤ high) :
    takeMore (more + 1) low high value ((bits + 0x80) :: bytes) =
      takeMore more 0x80 0xbf (value * 64 + bits) bytes := by
  rw [takeMore, if_pos ⟨hl, hh⟩]
  congr 2
  omega

theorem lossyChars_of_lt (h : first < 0x80) :
    lossyChars (fuel + 1) (first :: bytes) = Char.ofNat first :: lossyChars fuel bytes := by
  rw [lossyChars, if_pos h]

theorem lossyChars_of_takeMore (h : continuation first = some (more, low, high))
    (hf : 0x80 ≤ first)
    (taken : takeMore more low high (leadingBits more first) bytes = (some code, rest)) :
    lossyChars (fuel + 1) (first :: bytes) = Char.ofNat code :: lossyChars fuel rest := by
  rw [lossyChars, if_neg (Nat.not_lt.2 hf), h]
  simp only [taken, Option.elim_some]

end Steps

theorem toNat_lt (c : Char) : c.toNat < 0xd800 ∨ 0xdfff < c.toNat ∧ c.toNat < 0x110000 :=
  c.valid

/-- The bytes of a character, by the size of its code. -/
theorem map_utf8EncodeChar (c : Char) :
    (String.utf8EncodeChar c).map (·.toNat) =
      if c.toNat ≤ 0x7f then [c.toNat]
      else if c.toNat ≤ 0x7ff then [c.toNat / 64 + 0xc0, c.toNat % 64 + 0x80]
      else if c.toNat ≤ 0xffff then
        [c.toNat / 4096 + 0xe0, c.toNat / 64 % 64 + 0x80, c.toNat % 64 + 0x80]
      else
        [c.toNat / 262144 + 0xf0, c.toNat / 4096 % 64 + 0x80, c.toNat / 64 % 64 + 0x80,
          c.toNat % 64 + 0x80] := by
  have bound := toNat_lt c
  unfold String.utf8EncodeChar
  rw [show c.val.toNat = c.toNat from rfl]
  generalize c.toNat = n at bound
  dsimp only
  repeat' split
  all_goals
    simp only [List.map_cons, List.map_nil, UInt8.toNat_ofNat', List.cons.injEq, and_true]
    omega

theorem lossyChars_utf8EncodeChar (c : Char) (fuel : Nat) (rest : List Nat) :
    lossyChars (fuel + 1) ((String.utf8EncodeChar c).map (·.toNat) ++ rest) =
      c :: lossyChars fuel rest := by
  have bound := toNat_lt c
  have same := Char.ofNat_toNat c
  rw [map_utf8EncodeChar]
  generalize c.toNat = n at bound same
  subst same
  split
  · exact lossyChars_of_lt (by omega)
  split
  · apply lossyChars_of_takeMore (continuation_of_two (by omega) (by omega)) (by omega)
    have lead : leadingBits 1 (n / 64 + 0xc0) = n / 64 := by
      show (n / 64 + 0xc0) % 32 = n / 64
      omega
    have whole : n / 64 * 64 + n % 64 = n := by omega
    rw [lead]
    exact (takeMore_cons (by omega) (by omega) (by omega)).trans (by rw [whole]; rfl)
  split
  · apply lossyChars_of_takeMore (continuation_of_three (by omega) (by omega)) (by omega)
    have lead : leadingBits 2 (n / 4096 + 0xe0) = n / 4096 := by
      show (n / 4096 + 0xe0) % 16 = n / 4096
      omega
    have whole : (n / 4096 * 64 + n / 64 % 64) * 64 + n % 64 = n := by omega
    rw [lead]
    refine (takeMore_cons (by omega) (by split <;> omega) (by split <;> omega)).trans ?_
    exact (takeMore_cons (by omega) (by omega) (by omega)).trans (by rw [whole]; rfl)
  · apply lossyChars_of_takeMore (continuation_of_four (by omega) (by omega)) (by omega)
    have lead : leadingBits 3 (n / 262144 + 0xf0) = n / 262144 := by
      show (n / 262144 + 0xf0) % 8 = n / 262144
      omega
    have whole :
        ((n / 262144 * 64 + n / 4096 % 64) * 64 + n / 64 % 64) * 64 + n % 64 = n := by omega
    rw [lead]
    refine (takeMore_cons (by omega) (by split <;> omega) (by split <;> omega)).trans ?_
    refine (takeMore_cons (by omega) (by omega) (by omega)).trans ?_
    exact (takeMore_cons (by omega) (by omega) (by omega)).trans (by rw [whole]; rfl)

theorem lossyChars_flatMap {cs : List Char} {fuel : Nat} (h : cs.length ≤ fuel) :
    lossyChars fuel ((cs.flatMap String.utf8EncodeChar).map (·.toNat)) = cs := by
  induction cs generalizing fuel with
  | nil => cases fuel <;> rfl
  | cons c cs ih =>
      obtain ⟨fuel, rfl⟩ : ∃ f, fuel = f + 1 := ⟨fuel - 1, by simp at h; omega⟩
      rw [List.flatMap_cons, List.map_append, lossyChars_utf8EncodeChar,
        ih (Nat.le_of_succ_le_succ h)]

theorem length_le_flatMap (cs : List Char) :
    cs.length ≤ (cs.flatMap String.utf8EncodeChar).length := by
  induction cs with
  | nil => exact Nat.le_refl _
  | cons c cs ih =>
      have := String.length_utf8EncodeChar c
      have := Char.utf8Size_pos c
      rw [List.flatMap_cons, List.length_append, List.length_cons]
      omega

theorem toList_toUTF8 (s : String) :
    s.toUTF8.data.toList = s.toList.flatMap String.utf8EncodeChar := by
  conv => lhs; rw [← String.ofList_toList (s := s)]
  exact List.toList_data_toByteArray

theorem lossy_toUTF8 (s : String) : lossy s.toUTF8.data.toList = s := by
  rw [lossy, toList_toUTF8, lossyChars_flatMap (length_le_flatMap s.toList), String.ofList_toList]

theorem zero_not_mem_toUTF8 {s : String} (h : '\x00' ∉ s.toList) : 0 ∉ s.toUTF8.data.toList := by
  rw [toList_toUTF8, List.mem_flatMap]
  intro ⟨c, hc, zero⟩
  have hn : c.toNat ≠ 0 := by
    intro hz
    obtain rfl : c = '\x00' := by rw [← Char.ofNat_toNat c, hz]
    exact h hc
  have zero : (0 : UInt8).toNat ∈ (String.utf8EncodeChar c).map (·.toNat) :=
    List.mem_map_of_mem zero
  rw [map_utf8EncodeChar] at zero
  generalize c.toNat = n at hn zero
  grind

end ModelDepot.Text
