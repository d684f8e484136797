import ModelDepot.Number.Binary64

/-!
# JSON values

The values that replies and settings are made of. A number is an integer when it was written as
one and fits 64 bits with or without a sign; any other number is a floating-point number.
-/

namespace ModelDepot

/-- A JSON number: a 64-bit integer or a finite floating-point number. -/
inductive Json.Number where
  | integer (i : Int)
  | float (x : Binary64)
  deriving DecidableEq, Repr

/-- A JSON value. An object that was read holds its members in ascending order of their keys, each
key once; one that is written keeps the order it is given. -/
inductive Json where
  | null
  | bool (b : Bool)
  | number (n : Json.Number)
  | string (s : String)
  | array (items : List Json)
  | object (members : List (String × Json))
  deriving Repr, Inhabited

namespace Json

def int (i : Int) : Json := .number (.integer i)

def nat (n : Nat) : Json := .int n

/-- A floating-point value. What is not finite has no JSON form and becomes null. -/
def float (x : Binary64) : Json :=
  if x.isFinite then .number (.float x) else .null

def optString (s : Option String) : Json :=
  s.elim .null .string

/-- The members with one more, in its place in the order of keys; a member of the same key gives
way. -/
def insertMember (key : String) (value : Json) : List (String × Json) → List (String × Json)
  | [] => [(key, value)]
  | (k, v) :: rest =>
    if key < k then (key, value) :: (k, v) :: rest
    else if key = k then (key, value) :: rest
    else (k, v) :: insertMember key value rest

/-- Members in ascending order of keys. Of two members of one key the later stays. -/
def sortMembers (members : List (String × Json)) : List (String × Json) :=
  members.foldl (fun sorted m => insertMember m.1 m.2 sorted) []

/-- The value a key has in a list of members. -/
def lookup (key : String) (members : List (String × Json)) : Option Json :=
  (members.find? fun m => m.1 == key).map (·.2)

/-- The value under a key; none also for a value that is no object. -/
def get? : Json → String → Option Json
  | .object members, key => lookup key members
  | _, _ => none

end Json

end ModelDepot
