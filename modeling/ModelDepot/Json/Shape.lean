import ModelDepot.Json.Writer
import ModelDepot.Text.Quoted

/-!
# Reading values by shape

Typed readers of JSON values. A value that does not fit is refused with the reason. A record is
read from an object, by the names and aliases of its fields, or from an array, by their order; the
first member or item that does not fit decides the refusal.
-/

namespace ModelDepot.Json

/-- What was found where something else was expected. -/
inductive Found where
  | value (v : Json)
  /-- The name of a variant with nothing under it. -/
  | bareVariant

inductive ShapeError where
  | invalidType (found : Found) (expected : String)
  | invalidValue (found : Found) (expected : String)
  | missingField (name : String)
  | duplicateField (name : String)
  | unknownField (name : String) (allowed : List String)
  | unknownVariant (name : String) (allowed : List String)
  | invalidLength (length : Nat) (expected : String)
  /-- None of the layouts a value may have fits it. -/
  | noLayout (type : String)
  /-- A duration beyond the longest one. -/
  | durationOverflow

def Found.text : Found → String
  | .bareVariant => "unit variant"
  | .value .null => "null"
  | .value (.bool b) => "boolean `" ++ (if b then "true" else "false") ++ "`"
  | .value (.number (.integer i)) => "integer `" ++ (Number.integer i).text ++ "`"
  | .value (.number (.float x)) => "floating point `" ++ (Number.float x).text ++ "`"
  | .value (.string s) => "string " ++ Text.quote s
  | .value (.array _) => "sequence"
  | .value (.object _) => "map"

/-- Names between backticks: two are joined by "or", more are listed. -/
def oneOf (names : List String) : String :=
  let marked := names.map fun n => "`" ++ n ++ "`"
  match marked with
  | [] => "there are no variants"
  | [a] => "expected " ++ a
  | [a, b] => "expected " ++ a ++ " or " ++ b
  | more => "expected one of " ++ ", ".intercalate more

def ShapeError.message : ShapeError → String
  | .invalidType found expected => "invalid type: " ++ found.text ++ ", expected " ++ expected
  | .invalidValue found expected => "invalid value: " ++ found.text ++ ", expected " ++ expected
  | .missingField name => "missing field `" ++ name ++ "`"
  | .duplicateField name => "duplicate field `" ++ name ++ "`"
  | .unknownField name allowed => "unknown field `" ++ name ++ "`, " ++ oneOf allowed
  | .unknownVariant name allowed => "unknown variant `" ++ name ++ "`, " ++ oneOf allowed
  | .invalidLength n expected => "invalid length " ++ decimalText n ++ ", expected " ++ expected
  | .noLayout type => "data did not match any variant of untagged enum " ++ type
  | .durationOverflow => "overflow deserializing Duration"

abbrev Reader (α : Type) := Json → Except ShapeError α

def wrongType {α : Type} (v : Json) (expected : String) : Except ShapeError α :=
  .error (.invalidType (.value v) expected)

namespace Reader

def string : Reader String
  | .string s => .ok s
  | v => wrongType v "a string"

def path : Reader String
  | .string s => .ok s
  | v => wrongType v "path string"

def bool : Reader Bool
  | .bool b => .ok b
  | v => wrongType v "a boolean"

def word (size : Nat) (expected : String) : Reader Nat
  | .number (.integer i) =>
    if 0 ≤ i ∧ i < size then .ok i.toNat
    else .error (.invalidValue (.value (int i)) expected)
  | v => wrongType v expected

def u64 : Reader UInt64 := fun v => (word UInt64.size "u64" v).map UInt64.ofNat
def u32 : Reader UInt32 := fun v => (word UInt32.size "u32" v).map UInt32.ofNat
def u16 : Reader UInt16 := fun v => (word UInt16.size "u16" v).map UInt16.ofNat

def float : Reader Binary64
  | .number (.integer i) => .ok (.ofInt i)
  | .number (.float x) => .ok x
  | v => wrongType v "f64"

def unit : Reader Unit
  | .null => .ok ()
  | v => wrongType v "unit"

def option {α : Type} (r : Reader α) : Reader (Option α)
  | .null => .ok none
  | v => (r v).map some

def list {α : Type} (r : Reader α) : Reader (List α)
  | .array items => items.mapM r
  | v => wrongType v "a sequence"

end Reader

/-! ## Records -/

/-- What becomes of a field that is left out. -/
inductive Absent (α : Type) where
  | refused
  /-- An object may leave it out, an array may not. -/
  | inObjects (a : α)
  | anywhere (a : α)

/-- A field of a record: its name, other names it goes by, and how it is read. -/
structure Field (α : Type) where
  name : String
  aliases : List String
  read : Reader α
  absent : Absent α

namespace Field

def required {α : Type} (name : String) (read : Reader α) : Field α :=
  ⟨name, [], read, .refused⟩

/-- A field that is none when an object leaves it out, or when it is null. -/
def optional {α : Type} (name : String) (read : Reader α) : Field (Option α) :=
  ⟨name, [], read.option, .inObjects none⟩

/-- A field with a value for when it is left out. -/
def default {α : Type} (name : String) (read : Reader α) (value : α) : Field α :=
  ⟨name, [], read, .anywhere value⟩

/-- A field that is none when it is left out anywhere, or when it is null. -/
def lenient {α : Type} (name : String) (read : Reader α) : Field (Option α) :=
  ⟨name, [], read.option, .anywhere none⟩

def alsoNamed {α : Type} (f : Field α) (name : String) : Field α :=
  { f with aliases := name :: f.aliases }

def isNamed {α : Type} (f : Field α) (key : String) : Bool :=
  key == f.name || f.aliases.contains key

end Field

def Fields : List Type → Type
  | [] => Unit
  | α :: αs => Field α × Fields αs

/-- One value for every field. -/
def Row : List Type → Type
  | [] => Unit
  | α :: αs => α × Row αs

/-- The values met so far. -/
def Slots : List Type → Type
  | [] => Unit
  | α :: αs => Option α × Slots αs

namespace Fields

def noSlots : (αs : List Type) → Slots αs
  | [] => ()
  | _ :: αs => (none, noSlots αs)

/-- Puts the value of a key into the slot of its field. A field is met once at most; a key that
names no field is passed over. -/
def place : {αs : List Type} → Fields αs → Slots αs → String → Json →
    Except ShapeError (Slots αs)
  | [], _, _, _, _ => .ok ()
  | _ :: _, (f, fs), (slot, slots), key, v =>
    if f.isNamed key then
      match slot with
      | some _ => .error (.duplicateField f.name)
      | none => (f.read v).map fun a => (some a, slots)
    else (place fs slots key v).map fun slots => (slot, slots)

def placeAll {αs : List Type} (fs : Fields αs) (slots : Slots αs) :
    List (String × Json) → Except ShapeError (Slots αs)
  | [] => .ok slots
  | (key, v) :: rest =>
    match fs.place slots key v with
    | .ok slots => placeAll fs slots rest
    | .error e => .error e

/-- Completes the slots; the first field that may not be left out decides a refusal. -/
def complete : {αs : List Type} → Fields αs → Slots αs → Except ShapeError (Row αs)
  | [], _, _ => .ok ()
  | _ :: _, (f, fs), (slot, slots) =>
    match slot, f.absent with
    | some a, _ => (complete fs slots).map fun row => (a, row)
    | none, .inObjects a => (complete fs slots).map fun row => (a, row)
    | none, .anywhere a => (complete fs slots).map fun row => (a, row)
    | none, .refused => .error (.missingField f.name)

/-- Reads items in the order of the fields, `met` of which came before; gives back the items left
over. -/
def inOrder (expected : String) : {αs : List Type} → Fields αs → Nat → List Json →
    Except ShapeError (Row αs × List Json)
  | [], _, _, items => .ok ((), items)
  | _ :: _, (f, fs), met, [] =>
    match f.absent with
    | .anywhere a => (inOrder expected fs met []).map fun r => ((a, r.1), r.2)
    | _ => .error (.invalidLength met expected)
  | _ :: _, (f, fs), met, v :: items =>
    match f.read v with
    | .ok a => (inOrder expected fs (met + 1) items).map fun r => ((a, r.1), r.2)
    | .error e => .error e

end Fields

/-- How many items an array needs, in words. -/
def elementCount (type : String) (n : Nat) : String :=
  type ++ " with " ++ decimalText n ++ (if n = 1 then " element" else " elements")

/-- What becomes of items of an array behind the last field. -/
inductive Surplus where
  | refused
  | ignored
  deriving DecidableEq

/-- A record from an array of its fields. -/
def Fields.ofItems {αs : List Type} (fs : Fields αs) (type : String) (surplus : Surplus)
    (items : List Json) : Except ShapeError (Row αs) :=
  match fs.inOrder (elementCount type αs.length) 0 items with
  | .error e => .error e
  | .ok (row, left) =>
    if left.isEmpty || surplus == .ignored then .ok row
    else .error (.invalidLength items.length "fewer elements in array")

def Fields.ofMembers {αs : List Type} (fs : Fields αs) (members : List (String × Json)) :
    Except ShapeError (Row αs) :=
  match fs.placeAll (noSlots αs) members with
  | .error e => .error e
  | .ok slots => fs.complete slots

/-- A record of the named type from an object or an array. -/
def Reader.recordWith {α : Type} (αs : List Type) (surplus : Surplus) (type : String)
    (fs : Fields αs) (build : Row αs → α) : Reader α
  | .object members => (fs.ofMembers members).map build
  | .array items => (fs.ofItems type surplus items).map build
  | v => wrongType v type

/-- A record that takes no items behind its last field. -/
def Reader.record {α : Type} (αs : List Type) (type : String) (fs : Fields αs)
    (build : Row αs → α) : Reader α :=
  Reader.recordWith αs .refused type fs build

/-! ## Variants -/

/-- What a variant holds, and how it is read. -/
inductive Variant (α : Type) where
  /-- Nothing: the name alone, or null under it. -/
  | bare (a : α)
  /-- One value. -/
  | holding (read : Reader α)
  /-- Named fields, which only an object gives. -/
  | fields (read : List (String × Json) → Except ShapeError α)

def Variant.ofFields {α : Type} (αs : List Type) (fs : Fields αs) (build : Row αs → α) :
    Variant α :=
  .fields fun members => (fs.ofMembers members).map build

/-- Reads what stands under the name of a variant; none for a name that stands alone. -/
def Variant.read {α : Type} : Variant α → Option Json → Except ShapeError α
  | .bare a, none => .ok a
  | .bare a, some v => (Reader.unit v).map fun _ => a
  | .holding r, some v => r v
  | .holding _, none => .error (.invalidType .bareVariant "newtype variant")
  | .fields r, some (.object members) => r members
  | .fields _, some v => wrongType v "struct variant"
  | .fields _, none => .error (.invalidType .bareVariant "struct variant")

/-- One of several variants: a name, or an object with a name as its only key. -/
def Reader.variants {α : Type} (all : List (String × Variant α)) : Reader α := fun v =>
  let named (name : String) (held : Option Json) : Except ShapeError α :=
    match all.lookup name with
    | some variant => variant.read held
    | none => .error (.unknownVariant name (all.map (·.1)))
  match v with
  | .string name => named name none
  | .object [(name, held)] => named name (some held)
  | .object members => .error (.invalidValue (.value (.object members)) "map with a single key")
  | v => wrongType v "string or map"

end ModelDepot.Json
