import ModelDepot.Json.Basic
import Mathlib.Data.Prod.Basic

/-! # Equality of values

Values hold values in lists and in members, so they are compared along with the lists.
-/

namespace ModelDepot.Json

mutual
def same : Json → Json → Bool
  | .null, .null => true
  | .bool b, .bool b' => b == b'
  | .number n, .number n' => n == n'
  | .string s, .string s' => s == s'
  | .array items, .array items' => sameItems items items'
  | .object members, .object members' => sameMembers members members'
  | _, _ => false

def sameItems : List Json → List Json → Bool
  | [], [] => true
  | v :: items, v' :: items' => same v v' && sameItems items items'
  | _, _ => false

def sameMembers : List (String × Json) → List (String × Json) → Bool
  | [], [] => true
  | (key, v) :: members, (key', v') :: members' =>
    key == key' && same v v' && sameMembers members members'
  | _, _ => false
end

mutual
theorem same_iff (v v' : Json) : same v v' = true ↔ v = v' := by
  cases v with
  | array items => cases v' <;> simp [same, sameItems_iff items]
  | object members => cases v' <;> simp [same, sameMembers_iff members]
  | _ => cases v' <;> simp [same]

theorem sameItems_iff (items items' : List Json) :
    sameItems items items' = true ↔ items = items' := by
  cases items with
  | nil => cases items' <;> simp [sameItems]
  | cons v items => cases items' <;> simp [sameItems, same_iff v, sameItems_iff items]

theorem sameMembers_iff (members members' : List (String × Json)) :
    sameMembers members members' = true ↔ members = members' := by
  match members with
  | [] => cases members' <;> simp [sameMembers]
  | (key, v) :: members =>
      cases members' <;> simp [sameMembers, same_iff v, sameMembers_iff members, Prod.ext_iff]
end

instance : DecidableEq Json := fun v v' => decidable_of_iff _ (same_iff v v')

end ModelDepot.Json
