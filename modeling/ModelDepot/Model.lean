import ModelDepot.Json.Shape

/-!
# Models

A model the backend offers, and its JSON form. Lists and texts that a model does not have are left
out of the form.
-/

namespace ModelDepot

structure Model where
  name : String
  description : String
  sizeBytes : UInt64
  parameterCount : UInt64
  downloaded : Bool
  recommended : Bool
  tags : List String
  category : Option String
  version : Option String
  deriving DecidableEq, Repr

/-- A member that an object has only when there is something to say. -/
def Json.optMember (key : String) (value : Option Json) : List (String × Json) :=
  (value.map fun v => (key, v)).toList

namespace Model

def toJson (m : Model) : Json :=
  .object <|
    [("name", .string m.name), ("description", .string m.description),
      ("size_bytes", .nat m.sizeBytes.toNat), ("parameter_count", .nat m.parameterCount.toNat),
      ("downloaded", .bool m.downloaded), ("recommended", .bool m.recommended)] ++
    Json.optMember "tags"
      (if m.tags.isEmpty then none else some (.array (m.tags.map .string))) ++
    Json.optMember "category" (m.category.map .string) ++
    Json.optMember "version" (m.version.map .string)

open Json Json.Reader Json.Field in
def read : Json.Reader Model :=
  record
    [String, String, UInt64, UInt64, Bool, Bool, List String, Option String, Option String]
    "struct Model"
    (required "name" string, required "description" string, required "size_bytes" u64,
      required "parameter_count" u64, required "downloaded" bool, required "recommended" bool,
      default "tags" (list string) [], lenient "category" string, lenient "version" string, ())
    fun (name, description, sizeBytes, parameterCount, downloaded, recommended, tags, category,
        version, ()) =>
      { name, description, sizeBytes, parameterCount, downloaded, recommended, tags, category,
        version }

end Model

end ModelDepot
