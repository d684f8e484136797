/-!
# Blanks, pieces and digits

How texts are trimmed, cut and read as numbers. The characters that trimming takes away are those
with the Unicode property `White_Space`: names, status words and settings are trimmed by this rule
wherever they are read.
-/

namespace ModelDepot

namespace Text

/-- A character with the Unicode property `White_Space`. -/
def isBlank (c : Char) : Bool :=
  let n := c.toNat
  (9 ≤ n && n ≤ 13) || n == 0x20 || n == 0x85 || n == 0xa0 || n == 0x1680 ||
    (0x2000 ≤ n && n ≤ 0x200a) || n == 0x2028 || n == 0x2029 || n == 0x202f ||
    n == 0x205f || n == 0x3000

def trimChars (cs : List Char) : List Char :=
  ((cs.dropWhile isBlank).reverse.dropWhile isBlank).reverse

def trim (s : String) : String :=
  String.ofList (trimChars s.toList)

/-- Nothing remains of the string once it is trimmed. -/
def isBlankText (s : String) : Bool :=
  s.toList.all isBlank

/-- A text that says something; a blank one counts as left out. -/
def nonBlank (s : Option String) : Option String :=
  s.filter fun t => !isBlankText t

/-- The texts between the characters that cut, one more than there are of these. -/
def pieces (cuts : Char → Bool) : List Char → List (List Char)
  | [] => [[]]
  | c :: cs =>
    if cuts c then [] :: pieces cuts cs
    else
      match pieces cuts cs with
      | [] => [[c]]
      | p :: rest => (c :: p) :: rest

/-- The texts between blanks and line breaks. -/
def words (s : String) : List (List Char) :=
  (pieces Char.isWhitespace s.toList).filter (!·.isEmpty)

end Text

def hexDigit? (c : Char) : Option Nat :=
  if c.isDigit then some (c.toNat - '0'.toNat)
  else if 'a' ≤ c ∧ c ≤ 'f' then some (c.toNat - 'a'.toNat + 10)
  else if 'A' ≤ c ∧ c ≤ 'F' then some (c.toNat - 'A'.toNat + 10)
  else none

/-- The number that digits of a base stand for, at most sixteen; none if one is no such digit. -/
def ofBase (base : Nat) (cs : List Char) : Option Nat :=
  cs.foldl
    (fun n c => do
      let n ← n
      let d ← hexDigit? c
      if d < base then some (n * base + d) else none)
    (some 0)

end ModelDepot
