/-!
# Labels in ASCII

A label with characters outside ASCII is written in two parts: its ASCII characters, and behind the
last hyphen where the others go among them. The others are added in the order of their code points,
each by a number that says how far on it is from the one before: so many places, and when all
places are through, the next code point. Numbers are written in digits whose base depends on the
numbers before.
-/

namespace ModelDepot.Endpoint.Punycode

/-- The value of a digit: letters, then the decimal digits. -/
def digit? (c : Char) : Option Nat :=
  if 'a' ≤ c ∧ c ≤ 'z' then some (c.toNat - 'a'.toNat)
  else if 'A' ≤ c ∧ c ≤ 'Z' then some (c.toNat - 'A'.toNat)
  else if c.isDigit then some (c.toNat - '0'.toNat + 26)
  else none

def digit (n : Nat) : Char :=
  if n < 26 then Char.ofNat ('a'.toNat + n) else Char.ofNat ('0'.toNat + (n - 26))

/-- The least digit at a place that says that more digits follow. Places are counted from one. -/
def threshold (bias place : Nat) : Nat :=
  max 1 (min 26 (36 * place - bias))

/-- How often a number can be cut by 35 until it is at most 455, and what remains. -/
def shrink (n : Nat) : Nat × Nat :=
  if 455 < n then
    let (times, rest) := shrink (n / 35)
    (times + 1, rest)
  else (0, n)
termination_by n
decreasing_by omega

/-- The bias behind a number; `count` is how many characters there are then. -/
def adapt (isFirst : Bool) (n count : Nat) : Nat :=
  let n := if isFirst then n / 700 else n / 2
  let (times, rest) := shrink (n + n / count)
  36 * times + 36 * rest / (rest + 38)

def initialBias : Nat := 72

/-! ## Reading -/

structure Reading where
  label : List Char
  /-- The code point that is added next. -/
  code : Nat
  /-- How far on it goes, as read so far. -/
  distance : Nat
  /-- The distance before the number began. -/
  start : Nat
  bias : Nat
  /-- The place of the next digit, and what a digit there is worth. -/
  place : Nat
  weight : Nat

namespace Reading

/-- What a digit of a number is worth stays below this. -/
def weightLimit : Nat := 0x100000000

def init (label : List Char) : Reading :=
  ⟨label, 0x80, 0, 0, initialBias, 1, 1⟩

/-- Adds the character to which a number leads. -/
def insert (t : Reading) : Option Reading :=
  let count := t.label.length + 1
  let code := t.code + t.distance / count
  let place := t.distance % count
  if code.isValidChar then
    some {
      label := t.label.insertIdx place (Char.ofNat code)
      code
      distance := place + 1
      start := place + 1
      bias := adapt (t.start == 0) (t.distance - t.start) count
      place := 1
      weight := 1 }
  else none

def step (t : Reading) (c : Char) : Option Reading := do
  let n ← digit? c
  let least := threshold t.bias t.place
  let t := { t with distance := t.distance + n * t.weight }
  if n < least then t.insert
  else
    let weight := t.weight * (36 - least)
    if weight < weightLimit then some { t with weight, place := t.place + 1 } else none

end Reading

def decode (cs : List Char) : Option (List Char) := do
  let digits := (cs.reverse.takeWhile (· != '-')).reverse
  let basic := cs.take (cs.length - digits.length - 1)
  let digits := if basic.isEmpty then cs else digits
  let t ← digits.foldlM Reading.step (.init basic)
  if t.place = 1 then some t.label else none

/-! ## Writing -/

theorem threshold_pos (bias place : Nat) : 1 ≤ threshold bias place := by
  unfold threshold
  omega

def digits (bias place n : Nat) : List Char :=
  let least := threshold bias place
  if n < least then [digit n]
  else
    digit (least + (n - least) % (36 - least)) ::
      digits bias (place + 1) ((n - least) / (36 - least))
termination_by n
decreasing_by
  have := threshold_pos bias place
  exact Nat.lt_of_le_of_lt (Nat.div_le_self ..) (by omega)

structure Writing where
  /-- The digits so far. -/
  text : List Char
  /-- How far on the next character is. -/
  distance : Nat
  bias : Nat
  /-- How many characters are written. -/
  count : Nat
  isFirst : Bool

namespace Writing

/-- Goes over one character of the label while characters of a code point are written. -/
def pass (code : Nat) (t : Writing) (c : Char) : Writing :=
  if c.toNat < code then { t with distance := t.distance + 1 }
  else if c.toNat = code then
    { text := t.text ++ digits t.bias 1 t.distance
      distance := 0
      bias := adapt t.isFirst t.distance (t.count + 1)
      count := t.count + 1
      isFirst := false }
  else t

/-- Writes the characters of each code point in turn; `next` is the least that may come. -/
def codes (label : List Char) (t : Writing) (next : Nat) : List Nat → Writing
  | [] => t
  | code :: rest =>
    let t := { t with distance := t.distance + (code - next) * (t.count + 1) }
    let t := label.foldl (pass code) t
    codes label { t with distance := t.distance + 1 } (code + 1) rest

end Writing

/-- The code points outside ASCII, each once and in ascending order. -/
def foreignCodes (label : List Char) : List Nat :=
  ((label.map Char.toNat).filter (0x80 ≤ ·)).mergeSort.eraseDups

def encode (label : List Char) : List Char :=
  let basic := label.filter (·.toNat < 0x80)
  let t := Writing.codes label ⟨[], 0, initialBias, basic.length, true⟩ 0x80 (foreignCodes label)
  (if basic.isEmpty then [] else basic ++ ['-']) ++ t.text

end ModelDepot.Endpoint.Punycode
