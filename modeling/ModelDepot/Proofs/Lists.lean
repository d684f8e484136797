import Mathlib.Data.List.Basic

/-! # Lists

Facts about lists in general: how a history splits at one of its entries, what removing repeats
makes of one more entry, what is read off a list entry by entry, and lists side by side.
-/

namespace ModelDepot

variable {α β : Type}

/-- An entry of a history is its last one or comes before that. -/
theorem concat_eq_split_iff {past before since : List α} {last entry : α} :
    past ++ [last] = before ++ entry :: since ↔
      past = before ∧ last = entry ∧ since = [] ∨
      ∃ between, since = between ++ [last] ∧ past = before ++ entry :: between := by
  constructor
  · intro split
    rcases List.eq_nil_or_concat' since with rfl | ⟨between, final, rfl⟩
    · obtain ⟨rfl, same⟩ := List.append_inj' split rfl
      exact .inl ⟨rfl, List.singleton_inj.1 same, rfl⟩
    · rw [← List.cons_append, ← List.append_assoc] at split
      obtain ⟨rfl, same⟩ := List.append_inj' split rfl
      exact .inr ⟨between, by rw [List.singleton_inj.1 same], rfl⟩
  · rintro (⟨rfl, rfl, rfl⟩ | ⟨between, rfl, rfl⟩)
    · rfl
    · rw [← List.cons_append, ← List.append_assoc]

theorem eraseDups_concat [BEq α] [LawfulBEq α] (as : List α) (a : α) :
    (as ++ [a]).eraseDups = if as.contains a then as.eraseDups else as.eraseDups ++ [a] := by
  rw [List.eraseDups_append]
  split
  · next known =>
      rw [List.contains_iff_mem] at known
      simp [List.removeAll, known]
  · next new =>
      rw [List.contains_iff_mem] at new
      simp [List.removeAll, new, List.eraseDups_cons]

/-- What is read off the entries grows at its end when an entry grows that has nothing behind it. -/
theorem flatMap_modify {f : α → List β} {g : α → α} {as : List α} {j : Nat} {a : α}
    {new : List β} (hj : as[j]? = some a) (here : f (g a) = f a ++ new)
    (behind : new = [] ∨ ∀ k b, j < k → as[k]? = some b → f b = []) :
    (as.modify j g).flatMap f = as.flatMap f ++ new := by
  induction as generalizing j with
  | nil => simp at hj
  | cons first as ih =>
      cases j with
      | zero =>
          obtain rfl : first = a := by simpa using hj
          have rest : new = [] ∨ as.flatMap f = [] := by
            refine behind.imp_right fun nothing => List.flatMap_eq_nil_iff.2 fun b hb => ?_
            obtain ⟨k, hk⟩ := List.mem_iff_getElem?.1 hb
            exact nothing (k + 1) b (Nat.succ_pos k) (by simpa using hk)
          rcases rest with rfl | nothing
          · simpa using here
          · simp [here, nothing]
      | succ j =>
          have later := ih (j := j) (by simpa using hj)
            (behind.imp_right fun nothing k b less hk =>
              nothing (k + 1) b (by omega) (by simpa using hk))
          simp [later]

theorem flatMap_sublist_map {f : α → List β} {g : α → β}
    (h : ∀ a, f a = [] ∨ f a = [g a]) (as : List α) : (as.flatMap f).Sublist (as.map g) := by
  induction as with
  | nil => exact .slnil
  | cons a as ih =>
      rw [List.flatMap_cons, List.map_cons]
      rcases h a with nothing | one
      · rw [nothing]
        exact ih.cons (g a)
      · rw [one]
        exact ih.cons_cons (g a)

theorem zip_concat_set {as : List α} {bs : List β} (inside : as.length < bs.length) (a : α)
    (b : β) : (as ++ [a]).zip (bs.set as.length b) = as.zip bs ++ [(a, b)] := by
  induction as generalizing bs with
  | nil =>
      cases bs with
      | nil => simp at inside
      | cons => simp
  | cons first as ih =>
      cases bs with
      | nil => simp at inside
      | cons second bs => simpa using ih (Nat.lt_of_succ_lt_succ inside)

theorem zip_concat_of_le {as : List α} {bs : List β} (outside : bs.length ≤ as.length) (a : α) :
    (as ++ [a]).zip bs = as.zip bs := by
  induction as generalizing bs with
  | nil => simp [List.eq_nil_of_length_eq_zero (Nat.le_zero.1 outside)]
  | cons first as ih =>
      cases bs with
      | nil => rfl
      | cons second bs => simpa using ih (Nat.le_of_succ_le_succ outside)

end ModelDepot
