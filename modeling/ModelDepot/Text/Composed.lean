import ModelDepot.Text.CombiningClass
import ModelDepot.Text.Decomposition

/-!
# Composed texts

Of all texts that look the same because they spell the same characters, one is the composed one:
marks are in the order of their classes, and characters are put together where they can be.
-/

namespace ModelDepot.Text

def settle (c : Char) : List Char → List Char
  | [] => [c]
  | last :: before =>
    if 0 < combiningClass c && combiningClass c < combiningClass last then
      last :: settle c before
    else c :: last :: before

/-- A text taken apart, the marks in the order of their classes. -/
def decomposed (cs : List Char) : List Char :=
  ((cs.flatMap decompose).foldl (fun before c => settle c before) []).reverse

/-- A text while it is put together. -/
structure Composing where
  /-- What is finished, the last character first. -/
  done : List Char
  /-- The character to which others may be added. -/
  starter : Option Char
  /-- The marks behind it that remain, the last one first. -/
  marks : List Char

namespace Composing

/-- The characters so far, the last one first. -/
def reversed (t : Composing) : List Char :=
  t.marks ++ t.starter.toList ++ t.done

/-- Nothing stands between the starter and the character. -/
def reaches (t : Composing) (c : Char) : Bool :=
  t.marks.head?.all fun mark => combiningClass mark < combiningClass c

/-- Adds a character: into the starter if the two can be one, or else behind. -/
def add (t : Composing) (c : Char) : Composing :=
  match if t.reaches c then t.starter.bind (compose? · c) else none with
  | some both => { t with starter := some both }
  | none =>
    if combiningClass c = 0 then ⟨t.reversed, some c, []⟩ else { t with marks := c :: t.marks }

end Composing

def composed (cs : List Char) : List Char :=
  ((decomposed cs).foldl Composing.add ⟨[], none, []⟩).reversed.reverse

end ModelDepot.Text
