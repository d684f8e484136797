import ModelDepot.Json.Basic

/-!
# TOML values and documents

A document is a tree of tables that grows entry by entry. Each table remembers how it came to be,
since that decides who may add to it: a table with a header of its own gets no second header and no
dotted entries from outside, and a table made by dotted keys gets no header at all.
-/

namespace ModelDepot.Toml

inductive Value where
  | string (s : String)
  | integer (i : Int)
  | float (x : Binary64)
  | bool (b : Bool)
  /-- A date, a time or both, as it was written. -/
  | datetime (text : String)
  | array (items : List Value)
  | table (entries : List (String × Value))
  deriving Repr

/-- How a table came to be. -/
inductive Origin where
  /-- By a header of its own, by braces, or as the document itself. -/
  | defined
  /-- By a header of a table below it. -/
  | implied
  /-- By a dotted key. -/
  | dotted
  deriving DecidableEq, Repr

/-- What stands under a key while a document grows. -/
inductive Node where
  | value (v : Value)
  | table (origin : Origin) (entries : List (String × Node))
  /-- Tables under one header in double brackets, the last one first; each is one more node. -/
  | tables (elements : List Node)
  deriving Repr

abbrev Entries := List (String × Node)

/-- A table while it grows. -/
structure Growing where
  origin : Origin
  entries : Entries

namespace Growing

def toNode (t : Growing) : Node :=
  .table t.origin t.entries

def get? (t : Growing) (key : String) : Option Node :=
  t.entries.lookup key

def set (t : Growing) (key : String) (node : Node) : Growing :=
  { t with entries := t.entries.filter (·.1 != key) ++ [(key, node)] }

/-- Changes the table that a path of keys leads to; tables that are missing are made. A path of
dotted keys does not enter a defined table, a path of a header does. Where tables share a header
the last one is meant. Nothing leads into a value. -/
def change (made : Origin) (f : Growing → Option Growing) : List String → Growing → Option Growing
  | [], t => f t
  | key :: path, t =>
    match t.get? key with
    | none => (change made f path ⟨made, []⟩).map fun child => t.set key child.toNode
    | some (.table origin entries) =>
      if made = .dotted ∧ origin = .defined then none
      else (change made f path ⟨origin, entries⟩).map fun child => t.set key child.toNode
    | some (.tables (.table origin entries :: earlier)) =>
      (change made f path ⟨origin, entries⟩).map fun child =>
        t.set key (.tables (child.toNode :: earlier))
    | some _ => none

/-- Adds an entry under a dotted key, `path` being its parts before the last. Every table on the
way must be one that dotted keys have made, and the key must be new. -/
def addEntry (path : List String) (key : String) (v : Value) : Growing → Option Growing :=
  change .dotted
    (fun t =>
      if (t.origin = .dotted) ↔ path = [] then none
      else if (t.get? key).isSome then none
      else some (t.set key (.value v)))
    path

/-- Gives a table its header. A table that was only implied so far becomes defined. -/
def addHeader (path : List String) (key : String) : Growing → Option Growing :=
  change .implied
    (fun t =>
      match t.get? key with
      | none => some (t.set key (.table .defined []))
      | some (.table .implied entries) => some (t.set key (.table .defined entries))
      | some _ => none)
    path

/-- Begins one more of the tables that share a header. -/
def addElement (path : List String) (key : String) : Growing → Option Growing :=
  change .implied
    (fun t =>
      match t.get? key with
      | none => some (t.set key (.tables [.table .defined []]))
      | some (.tables earlier) => some (t.set key (.tables (.table .defined [] :: earlier)))
      | some _ => none)
    path

end Growing

mutual

def Node.toValue : Node → Value
  | .value v => v
  | .table _ entries => .table (entryValues entries)
  | .tables elements => .array (elementValues elements).reverse

def entryValues : List (String × Node) → List (String × Value)
  | [] => []
  | (key, node) :: rest => (key, node.toValue) :: entryValues rest

/-- The tables under one header as values. -/
def elementValues : List Node → List Value
  | [] => []
  | node :: rest => node.toValue :: elementValues rest

end

/-- The only key of the object that a date or time is read as. -/
def datetimeKey : String := "$__toml_private_datetime"

mutual

/-- The value as JSON, for readers by shape. A date or time is an object of its own kind. -/
def Value.toJson : Value → Json
  | .string s => .string s
  | .integer i => .int i
  | .float x => .number (.float x)
  | .bool b => .bool b
  | .datetime text => .object [(datetimeKey, .string text)]
  | .array items => .array (itemsToJson items)
  | .table entries => .object (Json.sortMembers (entriesToJson entries))

def itemsToJson : List Value → List Json
  | [] => []
  | v :: rest => v.toJson :: itemsToJson rest

def entriesToJson : List (String × Value) → List (String × Json)
  | [] => []
  | (key, v) :: rest => (key, v.toJson) :: entriesToJson rest

end

end ModelDepot.Toml
