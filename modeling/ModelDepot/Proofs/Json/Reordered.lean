import Mathlib.Data.List.Forall2
import ModelDepot.Json.Basic

/-! # The order of members

The members of an object have no order: written in the order of the fields and read in the order of
the keys, it is the same value.
-/

namespace ModelDepot.Json

mutual
/-- The same value, with the members of its objects in any order, at any depth. -/
inductive Reordered : Json → Json → Prop where
  | refl (v : Json) : Reordered v v
  | array {items items' : List Json} :
      List.Forall₂ Reordered items items' → Reordered (.array items) (.array items')
  | object {members held members' : List (String × Json)} :
      SameMembers members held → held.Perm members' →
      Reordered (.object members) (.object members')

/-- The same members in the same order, each with a value that is the same up to order. -/
inductive SameMembers : List (String × Json) → List (String × Json) → Prop where
  | nil : SameMembers [] []
  | cons {key : String} {v v' : Json} {members members' : List (String × Json)} :
      Reordered v v' → SameMembers members members' →
      SameMembers ((key, v) :: members) ((key, v') :: members')
end

theorem SameMembers.refl (members : List (String × Json)) : SameMembers members members := by
  induction members with
  | nil => exact .nil
  | cons m members ih => exact .cons (.refl m.2) ih

namespace Reordered

variable {v j : Json} {items : List Json} {members : List (String × Json)}

/-- Only arrays and objects hold anything to reorder. -/
theorem eq_of_scalar (h : Reordered v j) (noArray : ∀ items, v ≠ .array items)
    (noObject : ∀ members, v ≠ .object members) : j = v := by
  cases h with
  | refl => rfl
  | array _ => exact absurd rfl (noArray _)
  | object _ _ => exact absurd rfl (noObject _)

theorem eq_null (h : Reordered .null j) : j = .null :=
  h.eq_of_scalar (fun _ => nofun) fun _ => nofun

theorem eq_bool {b : Bool} (h : Reordered (.bool b) j) : j = .bool b :=
  h.eq_of_scalar (fun _ => nofun) fun _ => nofun

theorem eq_number {n : Number} (h : Reordered (.number n) j) : j = .number n :=
  h.eq_of_scalar (fun _ => nofun) fun _ => nofun

theorem eq_string {s : String} (h : Reordered (.string s) j) : j = .string s :=
  h.eq_of_scalar (fun _ => nofun) fun _ => nofun

theorem ne_null (h : Reordered v j) (hv : v ≠ .null) : j ≠ .null := by
  cases h with
  | refl => exact hv
  | array _ | object _ _ => exact nofun

theorem exists_items (h : Reordered (.array items) j) :
    ∃ items', j = .array items' ∧ List.Forall₂ Reordered items items' := by
  cases h with
  | refl => exact ⟨items, rfl, List.forall₂_same.2 fun v _ => .refl v⟩
  | array same => exact ⟨_, rfl, same⟩

theorem exists_members (h : Reordered (.object members) j) :
    ∃ held members', j = .object members' ∧ SameMembers members held ∧ held.Perm members' := by
  cases h with
  | refl => exact ⟨members, members, rfl, .refl members, .rfl⟩
  | object same perm => exact ⟨_, _, rfl, same, perm⟩

theorem exists_member {key : String} (h : Reordered (.object [(key, v)]) j) :
    ∃ v', j = .object [(key, v')] ∧ Reordered v v' := by
  obtain ⟨held, members', rfl, same, perm⟩ := h.exists_members
  cases same with
  | @cons _ _ v' _ _ inner rest =>
      cases rest
      rw [List.perm_singleton.1 perm.symm]
      exact ⟨v', rfl, inner⟩

end Reordered

/-! ## Members by their keys -/

def keys (members : List (String × Json)) : List String :=
  members.map (·.1)

variable {key : String} {v : Json} {members held members' : List (String × Json)}

theorem mem_keys_iff : key ∈ keys members ↔ ∃ v, (key, v) ∈ members := by
  simp [keys]

theorem mem_keys_concat {name : String} :
    name ∈ keys (members ++ [(key, v)]) ↔ name ∈ keys members ∨ name = key := by
  simp [keys]

theorem SameMembers.keys_eq (same : SameMembers members held) : keys held = keys members := by
  induction members generalizing held with
  | nil =>
      cases same
      rfl
  | cons m members ih =>
      cases same with
      | cons _ rest => exact congrArg (_ :: ·) (ih rest)

theorem SameMembers.exists_of_mem (same : SameMembers members held) (h : (key, v) ∈ held) :
    ∃ v', (key, v') ∈ members ∧ Reordered v' v := by
  induction members generalizing held with
  | nil =>
      cases same
      cases h
  | cons m members ih =>
      cases same with
      | @cons _ w _ _ _ inner rest =>
          rcases List.mem_cons.1 h with first | later
          · cases first
            exact ⟨w, List.mem_cons_self, inner⟩
          · obtain ⟨v', inside, reordered⟩ := ih rest later
            exact ⟨v', List.mem_cons_of_mem _ inside, reordered⟩

end ModelDepot.Json
