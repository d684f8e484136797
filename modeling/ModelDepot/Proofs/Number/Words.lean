import Mathlib.Data.List.Induction
import Mathlib.Data.Nat.Digits.Defs
import ModelDepot.Config.Load

/-! # Words in decimal

A setting that is a number of 64 bits is written with decimal digits, perhaps behind a plus sign.
What such a text is read as is the number that its digits stand for.
-/

namespace ModelDepot

def decimalValue (digits : List Char) : Nat :=
  Nat.ofDigits 10 (digits.reverse.map fun d => d.toNat - '0'.toNat)

/-- The text is the number in decimal: digits, perhaps behind a plus sign. -/
def Spells (s : String) (n : UInt64) : Prop :=
  ∃ digits : List Char, (s.toList = digits ∨ s.toList = '+' :: digits) ∧ digits ≠ [] ∧
    (∀ d ∈ digits, d.isDigit = true) ∧ decimalValue digits = n.toNat

theorem decimalValue_concat (digits : List Char) (d : Char) :
    decimalValue (digits ++ [d]) = decimalValue digits * 10 + (d.toNat - '0'.toNat) := by
  simp only [decimalValue, List.reverse_append, List.reverse_singleton, List.singleton_append,
    List.map_cons, Nat.ofDigits_cons]
  omega

theorem hexDigit?_of_isDigit {d : Char} (h : d.isDigit = true) :
    hexDigit? d = some (d.toNat - '0'.toNat) ∧ d.toNat - '0'.toNat < 10 := by
  refine ⟨by rw [hexDigit?, if_pos h], ?_⟩
  simp only [Char.isDigit, Bool.and_eq_true, decide_eq_true_eq, ge_iff_le, UInt32.le_iff_toNat_le]
    at h
  have upper : d.toNat ≤ 57 := h.2
  have zero : '0'.toNat = 48 := rfl
  omega

theorem ofBase_ten {digits : List Char} (h : ∀ d ∈ digits, d.isDigit = true) :
    ofBase 10 digits = some (decimalValue digits) := by
  -- the reader goes on from the number so far, so the induction takes the last digit off
  induction digits using List.reverseRecOn with
  | nil => rfl
  | append_singleton digits d ih =>
      have before := ih fun e inside => h e (List.mem_append_left _ inside)
      obtain ⟨value, small⟩ := hexDigit?_of_isDigit (h d (by simp))
      rw [ofBase] at before ⊢
      rw [List.foldl_append, before, decimalValue_concat]
      simpa [value] using small

namespace Config

theorem parseWord_eq_some_iff {s : String} {n : UInt64} : parseWord s = some n ↔ Spells s n := by
  have reads (digits : List Char) :
      (if digits.isEmpty || !digits.all Char.isDigit then none
        else if (ofBase 10 digits).getD 0 < UInt64.size
          then some (UInt64.ofNat ((ofBase 10 digits).getD 0)) else none) = some n ↔
        digits ≠ [] ∧ (∀ d ∈ digits, d.isDigit = true) ∧ decimalValue digits = n.toNat := by
    by_cases all : ∀ d ∈ digits, d.isDigit = true
    · rw [ofBase_ten all, Option.getD_some]
      by_cases empty : digits = []
      · simp [empty]
      · have filled : (digits.isEmpty || !digits.all Char.isDigit) = false := by simpa [empty]
        have small := n.toNat_lt
        rw [filled, if_neg Bool.false_ne_true]
        constructor
        · intro read
          split at read
          · next fits =>
              cases read
              exact ⟨empty, all, (UInt64.toNat_ofNat_of_lt fits).symm⟩
          · cases read
        · rintro ⟨-, -, value⟩
          rw [value, if_pos small, UInt64.ofNat_toNat]
    · have refused : (digits.isEmpty || !digits.all Char.isDigit) = true := by
        rw [Bool.or_eq_true, Bool.not_eq_true', ← Bool.not_eq_true, List.all_eq_true]
        exact .inr all
      rw [refused, if_pos rfl]
      exact iff_of_false nofun fun h => all h.2.1
  rw [parseWord, Spells]
  split
  · next rest plus =>
      rw [reads rest, plus]
      constructor
      · exact fun h => ⟨rest, .inr rfl, h⟩
      · rintro ⟨digits, rfl | same, filled, all, value⟩
        · exact absurd (all '+' List.mem_cons_self) (by decide)
        · cases same
          exact ⟨filled, all, value⟩
  · next unsigned =>
      rw [reads s.toList]
      constructor
      · exact fun h => ⟨s.toList, .inl rfl, h⟩
      · rintro ⟨digits, rfl | plus, h⟩
        · exact h
        · exact absurd plus (unsigned digits)

theorem wordOf_of_spells {name value : String} {n : UInt64} (h : Spells (Text.trim value) n) :
    wordOf name value = .ok n := by
  rw [wordOf, parseWord_eq_some_iff.2 h]

theorem wordOf_of_garbled {name value : String} (h : ∀ n, ¬ Spells (Text.trim value) n) :
    wordOf name value = .error (.invalidValue name value) := by
  have unread : parseWord (Text.trim value) = none := by
    rw [Option.eq_none_iff_forall_ne_some]
    exact fun n read => h n (parseWord_eq_some_iff.1 read)
  rw [wordOf, unread]

end Config

end ModelDepot
