import ModelDepot.Text.Basic

/-!
# Tables of characters

Sets of characters and maps on them, written as words. A word names a range of code points in
hexadecimal: `41`, or `41-5a`, or `100-12e/2` for every second one. In a map a greater sign and
code points with dots between them follow: what the first character of the range becomes. The
others become what lies as far behind that as they lie behind the first.
-/

namespace ModelDepot.Text

/-- Code points from the first to the last in steps. -/
structure CodeRange where
  first : Nat
  last : Nat
  step : Nat
  deriving Repr

namespace CodeRange

def contains (r : CodeRange) (c : Char) : Bool :=
  r.first ≤ c.toNat && c.toNat ≤ r.last && (c.toNat - r.first) % r.step == 0

def readCode (cs : List Char) : Nat :=
  (ofBase 16 cs).getD 0

def read (cs : List Char) : CodeRange :=
  match pieces (fun c => c == '-' || c == '/') cs with
  | [first] => ⟨readCode first, readCode first, 1⟩
  | [first, last] => ⟨readCode first, readCode last, 1⟩
  | first :: last :: step :: _ => ⟨readCode first, readCode last, readCode step⟩
  | [] => ⟨0, 0, 1⟩

end CodeRange

structure CodeSet where
  ranges : List CodeRange

namespace CodeSet

def ofText (s : String) : CodeSet :=
  ⟨(words s).map CodeRange.read⟩

def contains (t : CodeSet) (c : Char) : Bool :=
  t.ranges.any fun r => r.contains c

end CodeSet

structure CodeMap where
  entries : List (CodeRange × List Nat)

namespace CodeMap

def readEntry (cs : List Char) : CodeRange × List Nat :=
  let image := (cs.dropWhile (· != '>')).drop 1
  (CodeRange.read (cs.takeWhile (· != '>')),
    if image.isEmpty then [] else (pieces (· == '.') image).map CodeRange.readCode)

def ofText (s : String) : CodeMap :=
  ⟨(words s).map readEntry⟩

/-- What a character becomes. -/
def get? (t : CodeMap) (c : Char) : Option (List Char) :=
  (t.entries.find? fun e => e.1.contains c).map fun e =>
    e.2.map fun n => Char.ofNat (n + (c.toNat - e.1.first))

end CodeMap

end ModelDepot.Text
