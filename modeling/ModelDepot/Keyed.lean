/-!
# Values by name

A short list of values, each under a name of its own.
-/

namespace ModelDepot

abbrev Keyed (α : Type) := List (String × α)

namespace Keyed

variable {α : Type}

def get? (entries : Keyed α) (name : String) : Option α :=
  entries.lookup name

/-- Puts a value under a name, in place of any that is there. -/
def set (entries : Keyed α) (name : String) (value : α) : Keyed α :=
  match entries with
  | [] => [(name, value)]
  | (n, v) :: rest => if n = name then (name, value) :: rest else (n, v) :: set rest name value

def erase (entries : Keyed α) (name : String) : Keyed α :=
  entries.filter fun entry => entry.1 != name

@[simp] theorem get?_set_self (entries : Keyed α) (name : String) (value : α) :
    (entries.set name value).get? name = some value := by
  induction entries with
  | nil => simp [set, get?]
  | cons entry rest ih =>
    obtain ⟨n, v⟩ := entry
    by_cases h : n = name
    · simp [set, get?, h]
    · have h' : (name == n) = false := by simpa using fun e => h e.symm
      simpa [set, get?, h, List.lookup_cons, h'] using ih

theorem get?_set_of_ne (entries : Keyed α) {name other : String} (value : α)
    (hne : other ≠ name) : (entries.set name value).get? other = entries.get? other := by
  have hb : (other == name) = false := by simpa using hne
  induction entries with
  | nil => simp [set, get?, List.lookup_cons, hb]
  | cons entry rest ih =>
    obtain ⟨n, v⟩ := entry
    by_cases h : n = name
    · subst h
      simp [set, get?, List.lookup_cons, hb]
    · by_cases ho : other = n
      · subst ho
        simp [set, get?, h]
      · have h' : (other == n) = false := by simpa using ho
        simpa [set, get?, h, List.lookup_cons, h'] using ih

@[simp] theorem get?_erase_self (entries : Keyed α) (name : String) :
    (entries.erase name).get? name = none := by
  induction entries with
  | nil => simp [erase, get?]
  | cons entry rest ih =>
    obtain ⟨n, v⟩ := entry
    by_cases h : n = name
    · simpa [erase, get?, h] using ih
    · have h' : (name == n) = false := by simpa using fun e => h e.symm
      simpa [erase, get?, h, List.lookup_cons, h'] using ih

theorem get?_erase_of_ne (entries : Keyed α) {name other : String} (hne : other ≠ name) :
    (entries.erase name).get? other = entries.get? other := by
  have hb : (other == name) = false := by simpa using hne
  induction entries with
  | nil => simp [erase, get?]
  | cons entry rest ih =>
    obtain ⟨n, v⟩ := entry
    by_cases h : n = name
    · subst h
      simpa [erase, get?, List.lookup_cons, hb] using ih
    · by_cases ho : other = n
      · subst ho
        simp [erase, get?, h]
      · have h' : (other == n) = false := by simpa using ho
        simpa [erase, get?, h, List.lookup_cons, h'] using ih

end Keyed

end ModelDepot
