import ModelDepot.Text.Basic

/-!
# File paths

Paths are texts with slashes. Two paths are the same when their components are: repeated slashes,
slashes at the end and dots in between say nothing.
-/

namespace ModelDepot.Path

/-- The path starts at the root. -/
def isAbsolute (path : String) : Bool :=
  path.toList.head? == some '/'

/-- What a path goes through: the root if it starts there, then names. A dot counts only at the
start of a path that does not start at the root. -/
def components (path : String) : List String :=
  let names := (Text.pieces (· == '/') path.toList).map String.ofList
  let said (s : String) : Bool := s != "" && s != "."
  if isAbsolute path then "/" :: names.filter said
  else
    match names with
    | "." :: rest => "." :: rest.filter said
    | names => names.filter said

def same (p q : String) : Bool :=
  components p == components q

/-- The path `q` seen from the directory `p`. -/
def join (p q : String) : String :=
  if isAbsolute q || p.isEmpty then q
  else if p.toList.getLast? == some '/' then p ++ q
  else p ++ "/" ++ q

/-- The paths without those that are the same as an earlier one. -/
def distinct (paths : List String) : List String :=
  paths.foldl (fun kept p => if kept.any (same p) then kept else kept ++ [p]) []

end ModelDepot.Path
