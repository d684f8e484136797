/-!
# Colours on a terminal

A painted text stands between the code of its colour and the code that ends all colours. Where the
text itself ends all colours, its own colour is taken up again.
-/

namespace ModelDepot.Console

/-- The colours in use; dim is one of them. -/
inductive Colour where
  | red
  | green
  | yellow
  | cyan
  | dim
  deriving DecidableEq, Repr

def Colour.code : Colour → String
  | red => "\x1b[31m"
  | green => "\x1b[32m"
  | yellow => "\x1b[33m"
  | cyan => "\x1b[36m"
  | dim => "\x1b[2m"

/-- The code that ends all colours. -/
def plain : String := "\x1b[0m"

/-- The text with a code after every end of all colours in it. -/
def resume (code : List Char) : List Char → List Char
  | '\x1b' :: '[' :: '0' :: 'm' :: rest => plain.toList ++ code ++ resume code rest
  | c :: rest => c :: resume code rest
  | [] => []

/-- At least `width` characters, filled up with blanks at the end. -/
def padEnd (width : Nat) (s : String) : String :=
  s ++ String.ofList (List.replicate (width - s.length) ' ')

/-- At least `width` characters, filled up with blanks in front. -/
def padStart (width : Nat) (s : String) : String :=
  String.ofList (List.replicate (width - s.length) ' ') ++ s

/-- A text of at least `width` characters, painted where `coloured` says so. The blanks that fill
it up are painted too. -/
def paintPadded (coloured : Bool) (colour : Colour) (width : Nat) (s : String) : String :=
  if coloured then
    colour.code ++ padEnd width (String.ofList (resume colour.code.toList s.toList)) ++ plain
  else padEnd width s

def paint (coloured : Bool) (colour : Colour) (s : String) : String :=
  paintPadded coloured colour 0 s

end ModelDepot.Console
