import ModelDepot.Json.Reader

/-! # Where a number ends

A number is read up to the first character that cannot go on with it, so a number at the end of a
text is read the same before whatever may follow a value.
-/

namespace ModelDepot.Json

/-- What follows cannot go on with a number. -/
def Stops (rest : List Char) : Prop :=
  ∀ c ∈ rest.head?, c.isDigit = false ∧ c ≠ '.' ∧ c ≠ 'e' ∧ c ≠ 'E'

/-- The reader reads a text the same when there is more behind it. -/
def Extends (rest : List Char) (read : List Char → Except Misread (Number × List Char)) : Prop :=
  ∀ cs n left, read cs = .ok (n, left) → read (cs ++ rest) = .ok (n, left ++ rest)

variable {negative : Bool} {coefficient : Nat} {exponent : Int} {cs rest left : List Char}

theorem stops_nil : Stops [] :=
  nofun

theorem takeWhile_isDigit_append (stops : Stops rest) (cs : List Char) :
    (cs ++ rest).takeWhile Char.isDigit = cs.takeWhile Char.isDigit := by
  induction cs with
  | nil =>
      cases rest with
      | nil => rfl
      | cons c rest => simp [(stops c rfl).1]
  | cons c cs ih =>
      cases hc : c.isDigit with
      | false => simp [hc]
      | true => simp [hc, ih]

theorem dropWhile_isDigit_append (stops : Stops rest) (cs : List Char) :
    (cs ++ rest).dropWhile Char.isDigit = cs.dropWhile Char.isDigit ++ rest := by
  induction cs with
  | nil =>
      cases rest with
      | nil => rfl
      | cons c rest => simp [(stops c rfl).1]
  | cons c cs ih =>
      cases hc : c.isDigit with
      | false => simp [hc]
      | true => simp [hc, ih]

theorem exponentDigits_append (stops : Stops rest) (e : Nat) (cs : List Char) :
    exponentDigits e (cs ++ rest) = ((exponentDigits e cs).1, (exponentDigits e cs).2 ++ rest) := by
  induction cs generalizing e with
  | nil =>
      cases rest with
      | nil => rfl
      | cons c rest => simp [exponentDigits, (stops c rfl).1]
  | cons c cs ih =>
      simp only [List.cons_append, exponentDigits]
      split
      · split
        · exact ih _
        · rfl
      · rfl

theorem floatBefore_extends (rest : List Char) :
    Extends rest (floatBefore negative coefficient exponent) := by
  intro cs n left h
  unfold floatBefore at h ⊢
  split at h
  · cases h
    rfl
  · cases h

theorem readExponentDigits_extends (stops : Stops rest) (down : Bool) :
    Extends rest (readExponentDigits negative coefficient exponent down) := by
  intro cs n left h
  cases cs with
  | nil => cases h
  | cons c cs =>
      simp only [readExponentDigits, List.cons_append] at h ⊢
      rw [exponentDigits_append stops]
      split at h
      · cases h
      · next digit =>
          rw [if_neg digit]
          generalize exponentDigits (digitValue c) cs = digits at h
          obtain ⟨e | e, later⟩ := digits
          · dsimp only at h ⊢
            split at h
            · cases h
            · next small =>
                rw [if_neg small, dropWhile_isDigit_append stops]
                exact floatBefore_extends rest _ _ _ h
          · exact floatBefore_extends rest _ _ _ h

theorem readExponent_extends (stops : Stops rest) :
    Extends rest (readExponent negative coefficient exponent) := by
  intro cs n left h
  cases cs with
  | nil => cases h
  | cons c cs =>
      by_cases plus : c = '+'
      · subst plus
        exact readExponentDigits_extends stops false _ _ _ h
      · by_cases minus : c = '-'
        · subst minus
          exact readExponentDigits_extends stops true _ _ _ h
        · have unsigned (more : List Char) :
              readExponent negative coefficient exponent (c :: more) =
                readExponentDigits negative coefficient exponent false (c :: more) := by
            simp [readExponent, plus, minus]
          rw [List.cons_append]
          rw [unsigned] at h ⊢
          exact readExponentDigits_extends stops false _ _ _ h

theorem readScale_extends (stops : Stops rest) :
    Extends rest (readScale negative coefficient exponent) := by
  intro cs n left h
  unfold readScale at h ⊢
  split at h
  · exact readExponent_extends stops _ _ _ h
  · exact readExponent_extends stops _ _ _ h
  · next small large =>
    have plain : ∀ c ∈ (cs ++ rest).head?, c ≠ 'e' ∧ c ≠ 'E' := by
      intro c hc
      cases cs with
      | nil => exact (stops c hc).2.2
      | cons d cs =>
          cases hc
          exact ⟨fun he => small cs (he ▸ rfl), fun he => large cs (he ▸ rfl)⟩
    split
    · next same => exact absurd rfl (plain 'e' (by rw [same]; rfl)).1
    · next same => exact absurd rfl (plain 'E' (by rw [same]; rfl)).2
    · exact floatBefore_extends rest _ _ _ h

theorem readFraction_extends (stops : Stops rest) :
    Extends rest (readFraction negative coefficient exponent) := by
  intro cs n left h
  simp only [readFraction] at h ⊢
  rw [takeWhile_isDigit_append stops, dropWhile_isDigit_append stops]
  split at h
  · split at h <;> cases h
  · next some =>
    rw [if_neg some]
    exact readScale_extends stops _ _ _ h

/-- What follows the digits before a point, those digits already absorbed. -/
def afterWhole (negative : Bool) (whole : Nat × List Char) (cs : List Char) :
    Except Misread (Number × List Char) :=
  match cs with
  | '.' :: fraction => readFraction negative whole.1 whole.2.length fraction
  | 'e' :: scale | 'E' :: scale => readExponent negative whole.1 whole.2.length scale
  | _ =>
    if whole.2.isEmpty then .ok (wholeNumber negative whole.1, cs)
    else floatBefore negative whole.1 whole.2.length cs

theorem readNumber_cons (c : Char) (cs : List Char) :
    readNumber negative (c :: cs) =
      if !c.isDigit then misreadAt .invalidNumber (c :: cs)
      else
        let digits := if c = '0' then [c] else (c :: cs).takeWhile Char.isDigit
        let rest := if c = '0' then cs else (c :: cs).dropWhile Char.isDigit
        if c = '0' ∧ rest.head?.any Char.isDigit then misreadAt .invalidNumber rest
        else afterWhole negative (absorb 0 digits) rest :=
  rfl

theorem afterWhole_extends (stops : Stops rest) (whole : Nat × List Char) :
    Extends rest (afterWhole negative whole) := by
  intro cs n left h
  unfold afterWhole at h ⊢
  split at h
  · exact readFraction_extends stops _ _ _ h
  · exact readExponent_extends stops _ _ _ h
  · exact readExponent_extends stops _ _ _ h
  · next point small large =>
    have plain : ∀ c ∈ (cs ++ rest).head?, c ≠ '.' ∧ c ≠ 'e' ∧ c ≠ 'E' := by
      intro c hc
      cases cs with
      | nil => exact (stops c hc).2
      | cons d cs =>
          cases hc
          exact ⟨fun he => point cs (he ▸ rfl), fun he => small cs (he ▸ rfl),
            fun he => large cs (he ▸ rfl)⟩
    split
    · next same => exact absurd rfl (plain '.' (by rw [same]; rfl)).1
    · next same => exact absurd rfl (plain 'e' (by rw [same]; rfl)).2.1
    · next same => exact absurd rfl (plain 'E' (by rw [same]; rfl)).2.2
    · split at h
      · next none =>
          cases h
          rw [if_pos none]
      · next some =>
          rw [if_neg some]
          exact floatBefore_extends rest _ _ _ h

theorem readNumber_extends (stops : Stops rest) : Extends rest (readNumber negative) := by
  intro cs n left h
  cases cs with
  | nil => cases h
  | cons c cs =>
      rw [List.cons_append]
      rw [readNumber_cons] at h ⊢
      split at h
      · cases h
      · next digit =>
          rw [if_neg digit, ← List.cons_append, takeWhile_isDigit_append stops,
            dropWhile_isDigit_append stops, ← apply_ite (· ++ rest)]
          dsimp only at h ⊢
          generalize (if c = '0' then cs else (c :: cs).dropWhile Char.isDigit) = later at h
          split at h
          · cases h
          · next single =>
              have single' : ¬ (c = '0' ∧ (later ++ rest).head?.any Char.isDigit) := by
                rintro ⟨zero, more⟩
                cases later with
                | cons d later => exact single ⟨zero, more⟩
                | nil =>
                    cases rest with
                    | nil => cases more
                    | cons d rest => simp [(stops d rfl).1] at more
              rw [if_neg single']
              exact afterWhole_extends stops _ _ _ _ h

end ModelDepot.Json
