import ModelDepot.Toml.Scalar

/-!
# TOML text into values

Values, lines and whole documents. A document is read line by line: headers say which table is
meant, entries add to it.
-/

namespace ModelDepot.Toml

/-- Skips a comment, if there is one; a comment with a control character in it ends there. -/
def skipComment : List Char → List Char
  | '#' :: cs => cs.dropWhile isText
  | cs => cs

/-- Skips blanks, line breaks and comments between the items of an array. A comment needs a line
break behind it. -/
def skipBetween : Nat → List Char → Option (List Char)
  | 0, cs => some cs
  | fuel + 1, cs =>
    let cs := skipBlanks cs
    match lineBreak? (skipComment cs) with
    | some rest => skipBetween fuel rest
    | none => if cs.head? = some '#' then none else some cs

/-- A table while it grows, from the entries between braces. -/
def braced : Growing := ⟨.defined, []⟩

mutual

/-- A value. The first number is fuel, of which every step takes one; the second is how many
levels may still be opened. -/
def value : Nat → Nat → Scanner Value
  | 0, _, _ => none
  | fuel + 1, depth, cs =>
    match cs with
    | '"' :: _ | '\'' :: _ => (anyString cs).map fun (s, rest) => (.string s, rest)
    | '[' :: rest =>
      match depth with
      | 0 => none
      | depth + 1 => (items fuel depth [] rest).map fun (vs, rest) => (.array vs, rest)
    | '{' :: rest =>
      match depth with
      | 0 => none
      | depth + 1 => do
        let (t, rest) ← pairs fuel depth true braced rest
        return (t.toNode.toValue, rest)
    | 't' :: 'r' :: 'u' :: 'e' :: rest => some (.bool true, rest)
    | 'f' :: 'a' :: 'l' :: 's' :: 'e' :: rest => some (.bool false, rest)
    | _ => (datetime cs).or ((float cs).or (integer cs))

/-- The items of an array behind its bracket or behind a comma; those read so far are in reverse. -/
def items : Nat → Nat → List Value → Scanner (List Value)
  | 0, _, _, _ => none
  | fuel + 1, depth, acc, cs => do
    match ← skipBetween cs.length cs with
    | ']' :: rest => return (acc.reverse, rest)
    | cs =>
      let (v, cs) ← value fuel depth cs
      match ← skipBetween cs.length cs with
      | ',' :: rest => items fuel depth (v :: acc) rest
      | ']' :: rest => return ((v :: acc).reverse, rest)
      | _ => none

/-- The entries of a table in braces, behind its brace or behind a comma. They stand in one line,
and no comma follows the last. -/
def pairs : Nat → Nat → Bool → Growing → Scanner Growing
  | 0, _, _, _, _ => none
  | fuel + 1, depth, first, t, cs =>
    match first, skipBlanks cs with
    | true, '}' :: rest => some (t, rest)
    | _, cs => do
      let ((path, name), cs) ← key cs
      let cs ← expect '=' cs
      let (v, cs) ← value fuel depth (skipBlanks cs)
      let t ← t.addEntry path name v
      match skipBlanks cs with
      | ',' :: rest => pairs fuel depth false t rest
      | '}' :: rest => some (t, rest)
      | _ => none

end

/-- The rest behind the end of a line: blanks and a comment, then a break or the end of the text. -/
def endOfLine (cs : List Char) : Option (List Char) :=
  match skipComment (skipBlanks cs) with
  | [] => some []
  | cs => lineBreak? cs

/-- A document as far as it has been read: the tree, and the header of the table that entries go
to. -/
structure Document where
  root : Growing
  header : List String

/-- A header behind its first bracket. -/
def header (doc : Document) (cs : List Char) : Option (Document × List Char) :=
  match cs with
  | '[' :: cs => do
    let ((path, name), cs) ← key cs
    let cs ← expect ']' cs
    let cs ← expect ']' cs
    let root ← doc.root.addElement path name
    return (⟨root, path ++ [name]⟩, ← endOfLine cs)
  | cs => do
    let ((path, name), cs) ← key cs
    let cs ← expect ']' cs
    let root ← doc.root.addHeader path name
    return (⟨root, path ++ [name]⟩, ← endOfLine cs)

/-- An entry of the table that the last header names. -/
def entry (doc : Document) (cs : List Char) : Option (Document × List Char) := do
  let ((path, name), cs) ← key cs
  let cs ← expect '=' cs
  let (v, cs) ← value (2 * cs.length + 2) (depthLimit - 1) (skipBlanks cs)
  let root ← doc.root.change .implied (Growing.addEntry path name v) doc.header
  return ({ doc with root }, ← endOfLine cs)

/-- The lines of a document. The number is fuel, of which every line takes one. -/
def lines : Nat → Document → List Char → Option Document
  | 0, _, _ => none
  | fuel + 1, doc, cs =>
    match skipBlanks cs with
    | [] => some doc
    | '[' :: rest => do
      let (doc, rest) ← header doc rest
      lines fuel doc rest
    | cs =>
      match endOfLine cs with
      | some rest => lines fuel doc rest
      | none => do
        let (doc, rest) ← entry doc cs
        lines fuel doc rest

/-- A whole text as a table; none when it is not TOML. A byte order mark in front is skipped. -/
def read (text : String) : Option Value :=
  let cs :=
    match text.toList with
    | '\ufeff' :: cs => cs
    | cs => cs
  (lines (cs.length + 1) ⟨braced, []⟩ cs).map fun doc => doc.root.toNode.toValue

end ModelDepot.Toml
