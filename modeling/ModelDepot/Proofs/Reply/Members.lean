import ModelDepot.Download.Claims
import ModelDepot.Json.Reader
import ModelDepot.Proofs.Json.Reordered
import Mathlib.Data.List.Induction

/-! # The members an object is written with

A text may write one key of an object several times. The value that is read keeps the last of
them: `writtenMembers` is the object as the text has it, `lastValue` what a key comes to, and
`lookup_sortMembers` says that this is what the value holds.
-/

namespace ModelDepot.Json

/-- The members of the object that a text spells, in the order of the text. A text that spells
anything else, or nothing, has none. -/
def writtenMembers (s : String) : Option (List (String × Json)) :=
  match skipBlanks s.toList with
  | '{' :: rest =>
    match readMembers (2 * s.toList.length + 1) (depthLimit - 1) true [] rest with
    | .ok (members, left) => if skipBlanks left = [] then some members else none
    | .error _ => none
  | _ => none

/-- The value of a key where the last member of that key counts. -/
def lastValue (key : String) (members : List (String × Json)) : Option Json :=
  ((members.filter fun m => m.1 == key).getLast?).map (·.2)

/-! ## What is read -/

theorem bind_eq_ok_iff {ε α β : Type} {x : Except ε α} {f : α → Except ε β} {b : β} :
    x >>= f = .ok b ↔ ∃ a, x = .ok a ∧ f a = .ok b := by
  cases x with
  | error e => simp [bind, Except.bind]
  | ok a => simp [bind, Except.bind]

theorem read_eq_ok_iff (s : String) (v : Json) :
    read s = .ok v ↔
      ∃ left, readValue (2 * s.toList.length + 2) depthLimit s.toList = .ok (v, left) ∧
        skipBlanks left = [] := by
  simp only [read, readChars]
  cases hv : readValue (2 * s.toList.length + 2) depthLimit s.toList with
  | error e => simp [bind, Except.bind]
  | ok found =>
      obtain ⟨w, left⟩ := found
      cases hl : skipBlanks left with
      | nil => simp [bind, Except.bind, pure, Except.pure, hl]
      | cons c rest => simp [bind, Except.bind, hl, misreadAt]

theorem readValue_eq_object_iff (fuel depth : Nat) (cs left : List Char)
    (ms : List (String × Json)) :
    readValue (fuel + 1) (depth + 1) cs = .ok (.object ms, left) ↔
      ∃ rest members, skipBlanks cs = '{' :: rest ∧
        readMembers fuel depth true [] rest = .ok (members, left) ∧ ms = sortMembers members := by
  rw [readValue]
  constructor
  · intro h
    split at h
    · simp [misreadAt] at h
    · rename_i c rest hcs
      split at h
      case h_7 =>
        obtain ⟨⟨members, rest'⟩, hm, hv⟩ := bind_eq_ok_iff.1 h
        simp only [pure, Except.pure, Except.ok.injEq, Prod.mk.injEq, object.injEq] at hv
        obtain ⟨rfl, rfl⟩ := hv
        exact ⟨rest, members, hcs, hm, rfl⟩
      case h_8 =>
        split at h
        · simp [bind_eq_ok_iff, pure, Except.pure] at h
        · simp [misreadAt] at h
      all_goals simp [bind_eq_ok_iff, pure, Except.pure] at h
  · rintro ⟨rest, members, hc, hm, rfl⟩
    simp [hc, hm, bind, Except.bind, pure, Except.pure]

/-- The object that is read has the written members, sorted. -/
theorem read_eq_object_iff (s : String) (ms : List (String × Json)) :
    read s = .ok (.object ms) ↔
      ∃ members, writtenMembers s = some members ∧ ms = sortMembers members := by
  rw [read_eq_ok_iff]
  constructor
  · rintro ⟨left, hv, hl⟩
    obtain ⟨rest, members, hc, hm, rfl⟩ :=
      (readValue_eq_object_iff (2 * s.toList.length + 1) (depthLimit - 1) ..).1 hv
    exact ⟨members, by simp only [writtenMembers, hc, hm, hl, if_true], rfl⟩
  · rintro ⟨members, hw, rfl⟩
    simp only [writtenMembers] at hw
    split at hw
    · rename_i rest hc
      split at hw
      · rename_i found left hm
        by_cases hl : skipBlanks left = []
        · rw [if_pos hl, Option.some.injEq] at hw
          subst hw
          have object :=
            (readValue_eq_object_iff _ (depthLimit - 1) ..).2 ⟨rest, found, hc, hm, rfl⟩
          exact ⟨left, object, hl⟩
        · simp [hl] at hw
      · simp at hw
    · simp at hw

/-! ## Which member counts -/

theorem lookup_insertMember (key k : String) (v : Json) (members : List (String × Json)) :
    lookup key (insertMember k v members) = if k = key then some v else lookup key members := by
  induction members with
  | nil =>
      by_cases hk : k = key
      · simp [insertMember, lookup, hk]
      · simp [insertMember, lookup, hk]
  | cons m members ih =>
      obtain ⟨k', v'⟩ := m
      simp only [lookup] at ih
      simp only [insertMember]
      split
      · by_cases hk : k = key <;> simp [lookup, hk]
      · split
        · rename_i hsame
          subst hsame
          by_cases hk : k = key <;> simp [lookup, hk]
        · rename_i hother
          by_cases hk' : k' = key
          · subst hk'
            simp [lookup, hother]
          · simpa [lookup, List.find?_cons, hk'] using ih

theorem lookup_sortMembers (key : String) (members : List (String × Json)) :
    lookup key (sortMembers members) = lastValue key members := by
  -- The members go into the sorted list in the order of the text, so the last one settles it.
  induction members using List.reverseRecOn with
  | nil => rfl
  | append_singleton members m ih =>
      obtain ⟨k, v⟩ := m
      simp only [sortMembers, List.foldl_append, List.foldl_cons, List.foldl_nil] at ih ⊢
      rw [lookup_insertMember, ih]
      by_cases hk : k = key
      · simp [lastValue, List.filter_append, hk]
      · simp [lastValue, List.filter_append, hk]

/-! ## One member for each key -/

theorem keys_insertMember (key : String) (v : Json) (members : List (String × Json)) :
    keys (insertMember key v members) = insertName key (keys members) := by
  induction members with
  | nil => rfl
  | cons m members ih =>
      obtain ⟨k, w⟩ := m
      simp only [keys, List.map_cons] at ih ⊢
      simp only [insertMember, insertName]
      split
      · rfl
      · split
        · next same => simp [same]
        · simp [ih]

theorem ascending_sortMembers (members : List (String × Json)) :
    (keys (sortMembers members)).Pairwise (· < ·) := by
  induction members using List.reverseRecOn with
  | nil => exact .nil
  | append_singleton members m ih =>
      simp only [sortMembers, List.foldl_append, List.foldl_cons, List.foldl_nil] at ih ⊢
      rw [keys_insertMember]
      exact pairwise_insertName ih

theorem nodup_keys_of_read {s : String} {ms : List (String × Json)}
    (h : read s = .ok (.object ms)) : (keys ms).Nodup := by
  obtain ⟨members, -, rfl⟩ := (read_eq_object_iff s ms).1 h
  refine (ascending_sortMembers members).imp ?_
  rintro key _ below rfl
  exact String.lt_irrefl key below

end ModelDepot.Json
