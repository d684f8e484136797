/-!
# Claims on model names

The names of the models that are being downloaded. A name is held at most once; the names are kept
in ascending order.
-/

namespace ModelDepot

def insertName (name : String) : List String → List String
  | [] => [name]
  | n :: rest =>
    if name < n then name :: n :: rest
    else if name = n then n :: rest
    else n :: insertName name rest

theorem mem_insertName {name x : String} {names : List String} :
    x ∈ insertName name names ↔ x = name ∨ x ∈ names := by
  induction names with
  | nil => simp [insertName]
  | cons n rest ih =>
    unfold insertName
    split
    · simp
    · split
      · next h => subst h; simp
      · simp only [List.mem_cons, ih]
        grind

theorem pairwise_insertName {name : String} {names : List String}
    (h : names.Pairwise (· < ·)) : (insertName name names).Pairwise (· < ·) := by
  induction names with
  | nil => simp [insertName]
  | cons n rest ih =>
    obtain ⟨hn, hrest⟩ := List.pairwise_cons.1 h
    unfold insertName
    split
    · next hlt =>
      refine List.pairwise_cons.2 ⟨fun x hx => ?_, h⟩
      rcases List.mem_cons.1 hx with rfl | hx
      · exact hlt
      · exact String.lt_trans hlt (hn x hx)
    · split
      · exact h
      · next hlt hne =>
        refine List.pairwise_cons.2 ⟨fun x hx => ?_, ih hrest⟩
        rcases mem_insertName.1 hx with rfl | hx
        · exact Std.lt_of_le_of_ne (String.not_lt.1 hlt) (Ne.symm hne)
        · exact hn x hx

/-- The names that are held, each once and in ascending order. -/
structure ActiveDownloads where
  names : List String
  ascending : names.Pairwise (· < ·)
  deriving DecidableEq, Repr

namespace ActiveDownloads

def none : ActiveDownloads := ⟨[], .nil⟩

def contains (a : ActiveDownloads) (model : String) : Bool :=
  a.names.contains model

/-- Holds a name; refused while someone holds it. -/
def claim (a : ActiveDownloads) (model : String) : Option ActiveDownloads :=
  if a.contains model then .none
  else some ⟨insertName model a.names, pairwise_insertName a.ascending⟩

def release (a : ActiveDownloads) (model : String) : ActiveDownloads :=
  ⟨a.names.filter (· != model), a.ascending.filter _⟩

end ActiveDownloads

end ModelDepot
