import ModelDepot.Text.Basic
import Mathlib.Data.List.DropRight

/-! # Blank ends

Blank characters at the ends of a text never reach a decoder: a text that is padded with them is
trimmed to the same text, and what is trimmed to nothing is blank throughout.
-/

namespace ModelDepot.Text

theorem isBlankText_iff (s : String) : isBlankText s = true ↔ ∀ c ∈ s.toList, isBlank c = true := by
  simp [isBlankText]

theorem trimChars_append_left {before : List Char} (h : ∀ c ∈ before, isBlank c = true)
    (cs : List Char) : trimChars (before ++ cs) = trimChars cs := by
  rw [trimChars, List.dropWhile_append_of_pos h, trimChars]

/-- Where the text itself is blank, blanks behind it are dropped from the front, so this case
stands apart. -/
theorem trimChars_append_right {after : List Char} (h : ∀ c ∈ after, isBlank c = true)
    (cs : List Char) : trimChars (cs ++ after) = trimChars cs := by
  induction cs with
  | nil =>
      have hnothing : after.dropWhile isBlank = [] := List.dropWhile_eq_nil_iff.2 h
      simp [trimChars, hnothing]
  | cons c cs ih =>
      by_cases hc : isBlank c = true
      · simpa [trimChars, hc] using ih
      · have hreverse : ∀ c ∈ after.reverse, isBlank c = true := by simpa using h
        simp only [trimChars, List.cons_append, List.dropWhile_cons, hc, Bool.false_eq_true,
          if_false]
        rw [← List.cons_append, List.reverse_append, List.dropWhile_append_of_pos hreverse]

theorem trim_padded {before after : String} (hb : isBlankText before = true)
    (ha : isBlankText after = true) (s : String) : trim (before ++ s ++ after) = trim s := by
  rw [isBlankText_iff] at hb ha
  rw [trim, String.toList_append, String.toList_append, trimChars_append_right ha,
    trimChars_append_left hb, trim]

theorem trimChars_eq_nil_iff (cs : List Char) :
    trimChars cs = [] ↔ ∀ c ∈ cs, isBlank c = true := by
  constructor
  · intro h
    have hrest : ∀ c ∈ cs.dropWhile isBlank, isBlank c = true := by
      simpa [trimChars] using h
    -- A rest that is not empty would begin with a character that is not blank.
    have hnone : cs.dropWhile isBlank = [] := by
      by_contra hne
      have hfirst := List.head_dropWhile_not isBlank hne
      simp [hrest _ (List.head_mem hne)] at hfirst
    exact List.dropWhile_eq_nil_iff.1 hnone
  · intro h
    simp [trimChars, List.dropWhile_eq_nil_iff.2 h]

theorem trim_eq_empty_iff (s : String) : trim s = "" ↔ isBlankText s = true := by
  rw [isBlankText_iff, ← trimChars_eq_nil_iff, trim, ← String.toList_inj]
  simp

theorem trimChars_trimChars (cs : List Char) : trimChars (trimChars cs) = trimChars cs := by
  have front : ∀ c ∈ cs.takeWhile isBlank, isBlank c = true := fun _ => List.mem_takeWhile_imp
  have back : ∀ c ∈ ((cs.dropWhile isBlank).reverse.takeWhile isBlank).reverse,
      isBlank c = true := by
    intro c inside
    exact List.mem_takeWhile_imp (List.mem_reverse.1 inside)
  have rest : cs.dropWhile isBlank =
      trimChars cs ++ ((cs.dropWhile isBlank).reverse.takeWhile isBlank).reverse := by
    rw [trimChars, ← List.reverse_append, List.takeWhile_append_dropWhile, List.reverse_reverse]
  calc trimChars (trimChars cs)
    _ = trimChars (cs.dropWhile isBlank) := by rw [rest, trimChars_append_right back]
    _ = trimChars (cs.takeWhile isBlank ++ cs.dropWhile isBlank) :=
      (trimChars_append_left front _).symm
    _ = trimChars cs := by rw [List.takeWhile_append_dropWhile]

theorem trim_trim (s : String) : trim (trim s) = trim s := by
  rw [trim, trim, String.toList_ofList, trimChars_trimChars]

end ModelDepot.Text
