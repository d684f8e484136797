import ModelDepot.Config.Load

/-!
# A tree of files

Files and directories by their paths, with the lookup that a path makes on its way from the root:
what it goes through has to be there and be a directory.
-/

namespace ModelDepot

/-- Files and directories by their components below the root. The directories above them are there
too. -/
structure FileTree where
  entries : List (List String × FileContent)

namespace FileTree

def contentAt (t : FileTree) (place : List String) : FileContent :=
  match t.entries.lookup place with
  | some content => content
  | none => if t.entries.any (fun e => place.isPrefixOf e.1) then .fault .isDirectory else .missing

/-- Follows the texts between the slashes of a path from a directory. An empty text at the end is a
slash, which only a directory has behind it. -/
def walk (t : FileTree) (place : List String) : List String → FileContent
  | [] => t.contentAt place
  | name :: rest =>
    match t.contentAt place with
    | .fault .isDirectory =>
      if name = "" ∨ name = "." then walk t place rest
      else if name = ".." then walk t place.dropLast rest
      else walk t (place ++ [name]) rest
    | _ => .missing

/-- What is found at an absolute path, or at a path seen from the directory `cwd`. -/
def find (t : FileTree) (cwd : List String) (path : String) : FileContent :=
  if path.isEmpty then .missing
  else
    let names := (Text.pieces (· == '/') path.toList).map String.ofList
    t.walk (if Path.isAbsolute path then [] else cwd) names

end FileTree

end ModelDepot
