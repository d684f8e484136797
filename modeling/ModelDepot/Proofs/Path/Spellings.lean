import ModelDepot.Path
import Mathlib.Logic.Relation

/-! # Spellings of one path

Slashes next to each other, dots behind a slash and a slash at the end say nothing. Two paths have
the same components exactly if one becomes the other by leaving such things out and putting them
in; the components put together again are such a spelling too.
-/

namespace ModelDepot

namespace Text

variable {cuts : Char → Bool}

theorem pieces_ne_nil (cuts : Char → Bool) (cs : List Char) : pieces cuts cs ≠ [] := by
  cases cs with
  | nil => simp [pieces]
  | cons c cs =>
      simp only [pieces]
      split
      · simp
      · split <;> simp

theorem pieces_append {c : Char} (cut : cuts c = true) (a b : List Char) :
    pieces cuts (a ++ c :: b) = pieces cuts a ++ pieces cuts b := by
  induction a with
  | nil => simp [pieces, cut]
  | cons d a ih =>
      simp only [List.cons_append, pieces, ih]
      split
      · rfl
      · cases first : pieces cuts a with
        | nil => exact absurd first (pieces_ne_nil cuts a)
        | cons p rest => rfl

theorem pieces_of_uncut {cs : List Char} (h : ∀ c ∈ cs, cuts c = false) :
    pieces cuts cs = [cs] := by
  induction cs with
  | nil => rfl
  | cons c cs ih =>
      have rest := ih fun d inside => h d (List.mem_cons_of_mem c inside)
      simp [pieces, h c List.mem_cons_self, rest]

end Text

namespace Path

def names (path : String) : List String :=
  (Text.pieces (· == '/') path.toList).map String.ofList

/-- A name that a path goes through. -/
def isSaid (name : String) : Bool :=
  name != "" && name != "."

variable {a b p q : String}

theorem names_ne_nil (p : String) : names p ≠ [] := by
  simpa [names] using Text.pieces_ne_nil _ _

theorem names_slash (a b : String) : names (a ++ "/" ++ b) = names a ++ names b := by
  have split : (a ++ "/" ++ b).toList = a.toList ++ '/' :: b.toList := by simp
  rw [names, split, Text.pieces_append (by decide), List.map_append, names, names]

def IsName (name : String) : Prop :=
  '/' ∉ name.toList

theorem names_of_isName (h : IsName p) : names p = [p] := by
  have uncut : ∀ c ∈ p.toList, (c == '/') = false := by
    intro c inside
    simpa using fun slash : c = '/' => h (slash ▸ inside)
  rw [names, Text.pieces_of_uncut uncut]
  simp

theorem isAbsolute_slash (some : a ≠ "") (b : String) :
    isAbsolute (a ++ "/" ++ b) = isAbsolute a := by
  have filled : a.toList ≠ [] := by simpa using some
  obtain ⟨c, cs, first⟩ := List.exists_cons_of_ne_nil filled
  simp [isAbsolute, first]

theorem components_eq (p : String) : components p =
    if isAbsolute p then "/" :: (names p).filter isSaid
    else if (names p).head? = some "." then "." :: (names p).tail.filter isSaid
    else (names p).filter isSaid := by
  have said : (fun s : String => s != "" && s != ".") = isSaid := rfl
  rw [components, ← names, said]
  split
  · rfl
  · cases names p with
    | nil => rfl
    | cons n ns =>
        by_cases dot : n = "."
        · subst dot
          rfl
        · simp [dot]

theorem components_slash (a b : String) : components (a ++ "/" ++ b) =
    (if a = "" then ["/"] else components a) ++ (names b).filter isSaid := by
  by_cases empty : a = ""
  · subst empty
    have absolute : isAbsolute ("" ++ "/" ++ b) = true := by simp [isAbsolute]
    have nothing : (names "").filter isSaid = [] := by decide
    rw [components_eq, if_pos absolute, names_slash, List.filter_append, nothing]
    rfl
  · rw [components_eq, isAbsolute_slash empty, names_slash, if_neg empty, components_eq]
    obtain ⟨n, ns, first⟩ := List.exists_cons_of_ne_nil (names_ne_nil a)
    split
    · simp
    · simp only [first, List.cons_append, List.head?_cons, List.tail_cons]
      split
      · simp
      · rw [← List.cons_append, List.filter_append]

theorem isAbsolute_of_isName (h : IsName p) : isAbsolute p = false := by
  rw [isAbsolute]
  cases first : p.toList with
  | nil => rfl
  | cons c cs =>
      have other : c ≠ '/' := by
        rintro rfl
        exact h (first ▸ List.mem_cons_self)
      simpa using other

theorem components_of_isName (h : IsName p) : components p = if p = "" then [] else [p] := by
  rw [components_eq, isAbsolute_of_isName h, names_of_isName h]
  by_cases empty : p = ""
  · simp [empty, isSaid]
  · by_cases dot : p = "."
    · simp [dot]
    · simp [empty, dot, isSaid]

/-! ## Shorter spellings -/

/-- The second path says the same as the first with one thing less. -/
inductive Shortens : String → String → Prop where
  /-- Of two slashes next to each other one is enough. -/
  | slash (a b : String) : Shortens (a ++ "//" ++ b) (a ++ "/" ++ b)
  /-- A dot between slashes leads nowhere. -/
  | dot (a b : String) : Shortens (a ++ "/./" ++ b) (a ++ "/" ++ b)
  /-- Nor does a dot behind the last slash. -/
  | lastDot (a : String) : Shortens (a ++ "/.") (a ++ "/")
  /-- A slash at the end is left out, unless it is the root. -/
  | lastSlash {a : String} : a ≠ "" → Shortens (a ++ "/") a

def Respelled : String → String → Prop :=
  Relation.EqvGen Shortens

theorem components_of_shortens (h : Shortens p q) : components p = components q := by
  cases h with
  | slash a b =>
      have split : a ++ "//" ++ b = a ++ "/" ++ ("" ++ "/" ++ b) := by simp [← String.toList_inj]
      rw [split, components_slash, components_slash, names_slash, List.filter_append]
      rfl
  | dot a b =>
      have split : a ++ "/./" ++ b = a ++ "/" ++ ("." ++ "/" ++ b) := by
        simp [← String.toList_inj]
      rw [split, components_slash, components_slash, names_slash, List.filter_append]
      rfl
  | lastDot a =>
      have split : a ++ "/." = a ++ "/" ++ "." := by simp [← String.toList_inj]
      have whole : components (a ++ "/") = components (a ++ "/" ++ "") := by
        rw [String.append_empty]
      rw [split, whole, components_slash, components_slash]
      rfl
  | lastSlash some =>
      have whole : components (q ++ "/") = components (q ++ "/" ++ "") := by
        rw [String.append_empty]
      rw [whole, components_slash, if_neg some]
      exact List.append_nil _

theorem components_of_respelled (h : Respelled p q) : components p = components q := by
  induction h with
  | rel p q step => exact components_of_shortens step
  | refl p => rfl
  | symm p q _ ih => exact ih.symm
  | trans p q r _ _ first second => exact first.trans second

namespace Respelled

variable {r : String}

theorem refl (p : String) : Respelled p p := Relation.EqvGen.refl p

theorem symm (h : Respelled p q) : Respelled q p := Relation.EqvGen.symm p q h

theorem trans (h : Respelled p q) (h' : Respelled q r) : Respelled p r :=
  Relation.EqvGen.trans p q r h h'

theorem of_shortens (h : Shortens p q) : Respelled p q := Relation.EqvGen.rel p q h

theorem slash (h : Respelled p q) (b : String) : Respelled (p ++ "/" ++ b) (q ++ "/" ++ b) := by
  induction h with
  | rel p q step =>
      cases step with
      | slash a rest =>
          simpa only [String.append_assoc] using of_shortens (.slash a (rest ++ "/" ++ b))
      | dot a rest =>
          simpa only [String.append_assoc] using of_shortens (.dot a (rest ++ "/" ++ b))
      | lastDot a =>
          have dotted : a ++ "/." ++ "/" ++ b = a ++ "/./" ++ b := by simp [← String.toList_inj]
          have doubled : a ++ "/" ++ "/" ++ b = a ++ "//" ++ b := by simp [← String.toList_inj]
          rw [dotted, doubled]
          exact (of_shortens (.dot a b)).trans (of_shortens (.slash a b)).symm
      | lastSlash _ =>
          have doubled : q ++ "/" ++ "/" ++ b = q ++ "//" ++ b := by simp [← String.toList_inj]
          rw [doubled]
          exact of_shortens (.slash q b)
  | refl p => exact refl _
  | symm p q _ ih => exact ih.symm
  | trans p q r _ _ first second => exact first.trans second

end Respelled

/-! ## From the last slash on -/

/-- A path is a name, or a path with a name behind a slash. -/
theorem induction_on_slash {P : String → Prop} (name : ∀ p, IsName p → P p)
    (slash : ∀ a b, IsName b → P a → P (a ++ "/" ++ b)) (p : String) : P p := by
  induction hn : p.length using Nat.strongRecOn generalizing p with
  | ind n ih =>
      subst hn
      by_cases plain : IsName p
      · exact name p plain
      · have met : '/' ∈ p.toList.reverse := List.mem_reverse.2 (Classical.not_not.1 plain)
        obtain ⟨back, front, split, new⟩ := List.eq_append_cons_of_mem met
        have whole : p = String.ofList front.reverse ++ "/" ++ String.ofList back.reverse := by
          rw [← String.toList_inj, ← List.reverse_inj, split]
          simp
        rw [whole]
        apply slash
        · simpa [IsName] using new
        · apply ih _ _ _ rfl
          rw [whole]
          simp only [String.length_append, String.length_ofList]
          have one : "/".length = 1 := rfl
          omega

theorem components_eq_nil_iff (p : String) : components p = [] ↔ p = "" := by
  constructor
  · intro h
    induction p using induction_on_slash with
    | name p plain =>
        rw [components_of_isName plain] at h
        split at h
        · assumption
        · cases h
    | slash a b _ ih =>
        rw [components_slash, List.append_eq_nil_iff] at h
        by_cases empty : a = ""
        · simp [empty] at h
        · rw [if_neg empty] at h
          exact absurd (ih h.1) empty
  · rintro rfl
    rfl

theorem respelled_join (some : p ≠ "") (relative : isAbsolute q = false) :
    Respelled (p ++ "/" ++ q) (join p q) := by
  simp only [join, relative, String.isEmpty_iff, some, Bool.false_or]
  split
  · next h => simp at h
  · split
    · next last =>
        obtain ⟨front, ends⟩ := List.getLast?_eq_some_iff.1 (by simpa using last)
        have whole : p = String.ofList front ++ "/" := by simp [← String.toList_inj, ends]
        have doubled : p ++ "/" ++ q = String.ofList front ++ "//" ++ q := by
          rw [whole]
          simp [← String.toList_inj]
        rw [doubled, whole]
        exact .of_shortens (.slash _ q)
    · exact .refl _

theorem respelled_of_unsaid (a : String) (unsaid : isSaid b = false) :
    Respelled (a ++ "/" ++ b) (a ++ "/") := by
  simp only [isSaid, Bool.and_eq_false_iff, bne_eq_false_iff_eq] at unsaid
  obtain rfl | rfl := unsaid
  · rw [String.append_empty]
    exact .refl _
  · have dotted : a ++ "/" ++ "." = a ++ "/." := by simp [← String.toList_inj]
    rw [dotted]
    exact .of_shortens (.lastDot a)

/-- The components of a path, joined again, are a spelling of it. -/
theorem respelled_rejoined (p : String) : Respelled p ((components p).foldl join "") := by
  induction p using induction_on_slash with
  | name p plain =>
      rw [components_of_isName plain]
      by_cases empty : p = ""
      · rw [if_pos empty, empty]
        exact .refl _
      · rw [if_neg empty]
        simpa [join] using Respelled.refl p
  | slash a b plain ih =>
      rw [components_slash, names_of_isName plain, List.foldl_append]
      cases said : isSaid b with
      | true =>
          have relative := isAbsolute_of_isName plain
          simp only [List.filter_cons, said, if_true, List.filter_nil, List.foldl_cons,
            List.foldl_nil]
          by_cases empty : a = ""
          · subst empty
            have joined : join (join "" "/") b = "/" ++ b := by
              have root : join "" "/" = "/" := rfl
              rw [root, join, relative]
              rfl
            simpa [joined] using Respelled.refl ("/" ++ b)
          · rw [if_neg empty]
            refine (ih.slash b).trans (respelled_join ?_ relative)
            rwa [ne_eq, ← components_eq_nil_iff, ← components_of_respelled ih,
              components_eq_nil_iff]
      | false =>
          simp only [List.filter_cons, said, Bool.false_eq_true, if_false, List.filter_nil,
            List.foldl_nil]
          refine (respelled_of_unsaid a said).trans ?_
          by_cases empty : a = ""
          · subst empty
            exact .refl "/"
          · rw [if_neg empty]
            exact (Respelled.of_shortens (.lastSlash empty)).trans ih

theorem same_iff_respelled : same p q = true ↔ Respelled p q := by
  rw [same, beq_iff_eq]
  constructor
  · intro h
    have rejoined := respelled_rejoined p
    rw [h] at rejoined
    exact rejoined.trans (respelled_rejoined q).symm
  · exact components_of_respelled

example : same "models//.//lib.so/" "models/lib.so" = true := by decide

example : same "./lib.so" "lib.so" = false := by decide

/-! ## A dot in front -/

theorem head?_names_iff (p : String) :
    (names p).head? = some "." ↔ p = "." ∨ ∃ rest, p = "./" ++ rest := by
  constructor
  · intro h
    induction p using induction_on_slash with
    | name p plain =>
        rw [names_of_isName plain] at h
        exact .inl (Option.some.inj h)
    | slash a b _ ih =>
        have first : (names (a ++ "/" ++ b)).head? = (names a).head? := by
          obtain ⟨n, ns, first⟩ := List.exists_cons_of_ne_nil (names_ne_nil a)
          rw [names_slash, first]
          rfl
        rw [first] at h
        obtain rfl | ⟨rest, rfl⟩ := ih h
        · exact .inr ⟨b, rfl⟩
        · exact .inr ⟨rest ++ "/" ++ b, by simp only [String.append_assoc]⟩
  · rintro (rfl | ⟨rest, rfl⟩)
    · decide
    · change (names ("." ++ "/" ++ rest)).head? = some "."
      rw [names_slash]
      rfl

/-- A dot in front leads to another path, unless there is one already. -/
theorem respelled_dot_iff (p : String) :
    Respelled ("./" ++ p) p ↔ p = "." ∨ ∃ rest, p = "./" ++ rest := by
  have dotted : components ("./" ++ p) = "." :: (names p).filter isSaid :=
    components_slash "." p
  rw [← head?_names_iff, ← same_iff_respelled, same, beq_iff_eq, dotted, components_eq]
  split
  · next absolute =>
      have root : (names p).head? ≠ some "." := by
        rw [ne_eq, head?_names_iff]
        rintro (rfl | ⟨rest, rfl⟩) <;> simp [isAbsolute] at absolute
      simpa using root
  · split
    · next dot =>
        obtain ⟨rest, first⟩ := List.head?_eq_some_iff.1 dot
        simp [first, isSaid]
    · next other =>
        simp [other]

end Path

end ModelDepot
