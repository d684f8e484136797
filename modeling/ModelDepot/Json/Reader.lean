import ModelDepot.Json.Basic
import ModelDepot.Text.Basic

/-!
# JSON text into values

A strict reader: one value with blanks around it, at most 127 arrays and objects deep. A text that
is refused is refused with the reason and the place, counted in bytes.

The reader walks a list of characters. A place is kept as the count of bytes that remain after it,
so that no function has to carry a position.
-/

namespace ModelDepot.Json

inductive SyntaxFault where
  | endOfValue
  | endOfString
  | endOfList
  | endOfObject
  | expectedValue
  | expectedWord
  | expectedColon
  | expectedListEnd
  | expectedObjectEnd
  | trailingComma
  | keyNotString
  | invalidNumber
  | numberOutOfRange
  | invalidEscape
  | controlCharacter
  | loneSurrogate
  | endOfSurrogate
  | tooDeep
  | trailingText
  deriving DecidableEq, Repr

def SyntaxFault.text : SyntaxFault → String
  | endOfValue => "EOF while parsing a value"
  | endOfString => "EOF while parsing a string"
  | endOfList => "EOF while parsing a list"
  | endOfObject => "EOF while parsing an object"
  | expectedValue => "expected value"
  | expectedWord => "expected ident"
  | expectedColon => "expected `:`"
  | expectedListEnd => "expected `,` or `]`"
  | expectedObjectEnd => "expected `,` or `\x7d`"
  | trailingComma => "trailing comma"
  | keyNotString => "key must be a string"
  | invalidNumber => "invalid number"
  | numberOutOfRange => "number out of range"
  | invalidEscape => "invalid escape"
  | controlCharacter => "control character (\\u0000-\\u001F) found while parsing a string"
  | loneSurrogate => "lone leading surrogate in hex escape"
  | endOfSurrogate => "unexpected end of hex escape"
  | tooDeep => "recursion limit exceeded"
  | trailingText => "trailing characters"

/-- A fault and the bytes of the text that lie behind it. -/
structure Misread where
  fault : SyntaxFault
  remaining : Nat
  deriving DecidableEq, Repr

def byteLength (cs : List Char) : Nat :=
  cs.foldl (fun n c => n + c.utf8Size) 0

/-- A fault right before the given rest. -/
def misread {α : Type} (fault : SyntaxFault) (rest : List Char) : Except Misread α :=
  .error ⟨fault, byteLength rest⟩

/-- A fault at the first byte of the given rest, that byte included. -/
def misreadAt {α : Type} (fault : SyntaxFault) (rest : List Char) : Except Misread α :=
  .error ⟨fault, byteLength rest - 1⟩

/-- The blanks between tokens. -/
def isBlank (c : Char) : Bool :=
  c == ' ' || c == '\n' || c == '\t' || c == '\r'

def skipBlanks (cs : List Char) : List Char :=
  cs.dropWhile isBlank

/-- The rest of a word whose first letter has been read. -/
def readWord : List Char → List Char → Except Misread (List Char)
  | [], rest => .ok rest
  | _ :: _, [] => misread .endOfValue []
  | w :: word, c :: rest =>
    if c = w then readWord word rest else misreadAt .expectedWord (c :: rest)

/-! ## Numbers -/

def digitValue (c : Char) : Nat :=
  c.toNat - '0'.toNat

/-- Takes digits into a coefficient while it fits 64 bits; gives back the digits left over. -/
def absorb : Nat → List Char → Nat × List Char
  | coefficient, [] => (coefficient, [])
  | coefficient, d :: ds =>
    let next := coefficient * 10 + digitValue d
    if next < UInt64.size then absorb next ds else (coefficient, d :: ds)

/-- The power of ten as a floating-point number; exact powers up to 10^308 are in range. -/
def powerOfTen (k : Nat) : Binary64 :=
  .ofNat (Nat.pow 10 k)

/-- Divides by a power of ten, at most 10^308 at a time, until nothing is left of the number. -/
def scaleDown (x : Binary64) (k : Nat) : Binary64 :=
  if x.magnitude = 0 then x
  else if k ≤ 308 then x.div (powerOfTen k)
  else scaleDown (x.div (powerOfTen 308)) (k - 308)
termination_by k

/-- The coefficient as a floating-point number, then one multiplication or division by the power
of ten. None when that is out of range. -/
def scaled (coefficient : Nat) (exponent : Int) : Option Binary64 :=
  let x := Binary64.ofNat coefficient
  if exponent < 0 then some (scaleDown x exponent.natAbs)
  else if x.magnitude = 0 then some x
  else if 308 < exponent then none
  else
    let y := x.mul (powerOfTen exponent.toNat)
    if y.isFinite then some y else none

def floatBefore (negative : Bool) (coefficient : Nat) (exponent : Int) (rest : List Char) :
    Except Misread (Number × List Char) :=
  match scaled coefficient exponent with
  | some x => .ok (.float (if negative then x.neg else x), rest)
  | none => misread .numberOutOfRange rest

/-- The largest exponent that is written out in full. -/
def exponentLimit : Nat := 0x7fffffff

/-- Reads the digits of an exponent; `none` with the rest where it passes the limit. -/
def exponentDigits : Nat → List Char → Option Nat × List Char
  | e, [] => (some e, [])
  | e, c :: rest =>
    if c.isDigit then
      let next := e * 10 + digitValue c
      if next ≤ exponentLimit then exponentDigits next rest else (none, rest)
    else (some e, c :: rest)

/-- An exponent, its letter and its sign already read, and with it the number. -/
def readExponentDigits (negative : Bool) (coefficient : Nat) (exponent : Int) (down : Bool)
    (cs : List Char) : Except Misread (Number × List Char) :=
  match cs with
  | [] => misread .endOfValue []
  | c :: rest =>
    if !c.isDigit then misreadAt .invalidNumber cs
    else
      match exponentDigits (digitValue c) rest with
      | (some e, rest) =>
        floatBefore negative coefficient (if down then exponent - e else exponent + e) rest
      | (none, rest) =>
        if coefficient ≠ 0 ∧ !down then misread .numberOutOfRange rest
        else floatBefore negative 0 0 (rest.dropWhile Char.isDigit)

def readExponent (negative : Bool) (coefficient : Nat) (exponent : Int) (cs : List Char) :
    Except Misread (Number × List Char) :=
  match cs with
  | '+' :: rest => readExponentDigits negative coefficient exponent false rest
  | '-' :: rest => readExponentDigits negative coefficient exponent true rest
  | _ => readExponentDigits negative coefficient exponent false cs

/-- What follows the digits of a floating-point number. -/
def readScale (negative : Bool) (coefficient : Nat) (exponent : Int) (cs : List Char) :
    Except Misread (Number × List Char) :=
  match cs with
  | 'e' :: rest | 'E' :: rest => readExponent negative coefficient exponent rest
  | _ => floatBefore negative coefficient exponent cs

/-- The digits behind a point. Those that no longer fit the coefficient are passed over. -/
def readFraction (negative : Bool) (coefficient : Nat) (exponent : Int) (cs : List Char) :
    Except Misread (Number × List Char) :=
  let digits := cs.takeWhile Char.isDigit
  let rest := cs.dropWhile Char.isDigit
  if digits.isEmpty then
    if rest.isEmpty then misread .endOfValue [] else misreadAt .invalidNumber rest
  else
    let (whole, left) := absorb coefficient digits
    readScale negative whole (exponent - (digits.length - left.length : Nat)) rest

/-- An integer: with a sign it has to fit a signed word, and minus zero is no integer. -/
def wholeNumber (negative : Bool) (coefficient : Nat) : Number :=
  if !negative then .integer coefficient
  else if coefficient = 0 ∨ 0x8000000000000000 < coefficient then
    .float (Binary64.ofNat coefficient).neg
  else .integer (-(coefficient : Int))

def readNumber (negative : Bool) (cs : List Char) : Except Misread (Number × List Char) :=
  match cs with
  | [] => misread .endOfValue []
  | c :: rest =>
    if !c.isDigit then misreadAt .invalidNumber cs
    else
      let digits := if c = '0' then [c] else cs.takeWhile Char.isDigit
      let rest := if c = '0' then rest else cs.dropWhile Char.isDigit
      if c = '0' ∧ rest.head?.any Char.isDigit then misreadAt .invalidNumber rest
      else
        let (coefficient, left) := absorb 0 digits
        match rest with
        | '.' :: fraction => readFraction negative coefficient left.length fraction
        | 'e' :: scale | 'E' :: scale => readExponent negative coefficient left.length scale
        | _ =>
          if left.isEmpty then .ok (wholeNumber negative coefficient, rest)
          else floatBefore negative coefficient left.length rest

/-! ## Strings -/

/-- Four hexadecimal digits. Four bytes are taken before they are looked at. -/
def readHex (cs : List Char) : Except Misread (Nat × List Char) :=
  let refused : Except Misread (Nat × List Char) :=
    if byteLength cs < 4 then misread .endOfString []
    else .error ⟨.invalidEscape, byteLength cs - 4⟩
  match cs with
  | a :: b :: c :: d :: rest =>
    match hexDigit? a, hexDigit? b, hexDigit? c, hexDigit? d with
    | some a, some b, some c, some d => .ok (((a * 16 + b) * 16 + c) * 16 + d, rest)
    | _, _, _, _ => refused
  | _ => refused

def isLeading (n : Nat) : Bool := 0xd800 ≤ n && n < 0xdc00
def isTrailing (n : Nat) : Bool := 0xdc00 ≤ n && n < 0xe000

/-- A character by its code, the letter `u` already read. A leading surrogate needs a trailing one
behind it, written the same way. -/
def readCode (cs : List Char) : Except Misread (Char × List Char) := do
  let (n, rest) ← readHex cs
  if isTrailing n then misread .loneSurrogate rest
  else if !isLeading n then .ok (Char.ofNat n, rest)
  else
    match rest with
    | [] => misread .endOfString []
    | '\\' :: [] => misread .endOfString []
    | '\\' :: 'u' :: rest =>
      let (low, rest) ← readHex rest
      if !isTrailing low then misread .loneSurrogate rest
      else .ok (Char.ofNat (0x10000 + (n - 0xd800) * 0x400 + (low - 0xdc00)), rest)
    | '\\' :: c :: rest => misreadAt .endOfSurrogate (c :: rest)
    | c :: rest => misreadAt .endOfSurrogate (c :: rest)

def readEscape : List Char → Except Misread (Char × List Char)
  | [] => misread .endOfString []
  | 'u' :: rest => readCode rest
  | '"' :: rest => .ok ('"', rest)
  | '\\' :: rest => .ok ('\\', rest)
  | '/' :: rest => .ok ('/', rest)
  | 'b' :: rest => .ok ('\x08', rest)
  | 'f' :: rest => .ok ('\x0c', rest)
  | 'n' :: rest => .ok ('\n', rest)
  | 'r' :: rest => .ok ('\r', rest)
  | 't' :: rest => .ok ('\t', rest)
  | c :: rest => misreadAt .invalidEscape (c :: rest)

/-- The characters of a string, its opening quote already read. The number is fuel, of which every
character takes one. -/
def readStringChars : Nat → List Char → List Char → Except Misread (List Char × List Char)
  | 0, _, _ => misread .endOfString []
  | _ + 1, _, [] => misread .endOfString []
  | fuel + 1, acc, c :: rest =>
    if c = '"' then .ok (acc.reverse, rest)
    else if c = '\\' then
      match readEscape rest with
      | .ok (e, rest) => readStringChars fuel (e :: acc) rest
      | .error e => .error e
    else if c.toNat < 0x20 then misread .controlCharacter rest
    else readStringChars fuel (c :: acc) rest

def readString (fuel : Nat) (cs : List Char) : Except Misread (String × List Char) :=
  match readStringChars fuel [] cs with
  | .ok (s, rest) => .ok (String.ofList s, rest)
  | .error e => .error e

/-! ## Values -/

/-- How deep arrays and objects may stand in each other. -/
def depthLimit : Nat := 127

def readColon (cs : List Char) : Except Misread (List Char) :=
  match skipBlanks cs with
  | ':' :: rest => .ok rest
  | [] => misreadAt .endOfObject []
  | rest => misreadAt .expectedColon rest

mutual

/-- A value. The first number is fuel, of which every step takes one, within strings too; the second
is how many levels may still be opened. -/
def readValue : Nat → Nat → List Char → Except Misread (Json × List Char)
  | 0, _, _ => misread .endOfValue []
  | fuel + 1, depth, cs =>
    match skipBlanks cs with
    | [] => misreadAt .endOfValue []
    | c :: rest =>
      match c with
      | 'n' => do let rest ← readWord ['u', 'l', 'l'] rest; return (.null, rest)
      | 't' => do let rest ← readWord ['r', 'u', 'e'] rest; return (.bool true, rest)
      | 'f' => do let rest ← readWord ['a', 'l', 's', 'e'] rest; return (.bool false, rest)
      | '-' => do let (n, rest) ← readNumber true rest; return (.number n, rest)
      | '"' => do let (s, rest) ← readString fuel rest; return (.string s, rest)
      | '[' =>
        match depth with
        | 0 => misreadAt .tooDeep (c :: rest)
        | depth + 1 => do
          let (items, rest) ← readItems fuel depth true [] rest
          return (.array items, rest)
      | '{' =>
        match depth with
        | 0 => misreadAt .tooDeep (c :: rest)
        | depth + 1 => do
          let (members, rest) ← readMembers fuel depth true [] rest
          return (.object (sortMembers members), rest)
      | _ =>
        if c.isDigit then do
          let (n, rest) ← readNumber false (c :: rest)
          return (.number n, rest)
        else misreadAt .expectedValue (c :: rest)

/-- The items of an array after its bracket or after an item; those read so far are in reverse. -/
def readItems : Nat → Nat → Bool → List Json → List Char →
    Except Misread (List Json × List Char)
  | 0, _, _, _, _ => misread .endOfList []
  | fuel + 1, depth, first, acc, cs =>
    match skipBlanks cs with
    | [] => misreadAt .endOfList []
    | ']' :: rest => .ok (acc.reverse, rest)
    | c :: rest =>
      if first then do
        let (item, rest) ← readValue fuel depth (c :: rest)
        readItems fuel depth false (item :: acc) rest
      else if c ≠ ',' then misreadAt .expectedListEnd (c :: rest)
      else
        match skipBlanks rest with
        | [] => misreadAt .endOfValue []
        | ']' :: rest => misreadAt .trailingComma (']' :: rest)
        | rest => do
          let (item, rest) ← readValue fuel depth rest
          readItems fuel depth false (item :: acc) rest

/-- The members of an object after its brace or after a member; those read so far are in
reverse. The result is in the order of the text. -/
def readMembers : Nat → Nat → Bool → List (String × Json) → List Char →
    Except Misread (List (String × Json) × List Char)
  | 0, _, _, _, _ => misread .endOfObject []
  | fuel + 1, depth, first, acc, cs =>
    match skipBlanks cs with
    | [] => misreadAt .endOfObject []
    | '}' :: rest => .ok (acc.reverse, rest)
    | c :: rest =>
      if first then
        if c ≠ '"' then misreadAt .keyNotString (c :: rest)
        else do
          let (key, rest) ← readString fuel rest
          let rest ← readColon rest
          let (value, rest) ← readValue fuel depth rest
          readMembers fuel depth false ((key, value) :: acc) rest
      else if c ≠ ',' then misreadAt .expectedObjectEnd (c :: rest)
      else
        match skipBlanks rest with
        | [] => misreadAt .endOfValue []
        | '}' :: rest => misreadAt .trailingComma ('}' :: rest)
        | '"' :: rest => do
          let (key, rest) ← readString fuel rest
          let rest ← readColon rest
          let (value, rest) ← readValue fuel depth rest
          readMembers fuel depth false ((key, value) :: acc) rest
        | rest => misreadAt .keyNotString rest

end

/-- A whole text as one value. No character takes more than two steps, one into a value and one
into its items. -/
def readChars (cs : List Char) : Except Misread Json := do
  let (v, rest) ← readValue (2 * cs.length + 2) depthLimit cs
  match skipBlanks rest with
  | [] => return v
  | rest => misreadAt .trailingText rest

/-! ## Places -/

/-- Line and column of the place `offset` bytes into a text: lines count from one, columns are
the bytes since the line began. -/
def place : Nat → Nat → Nat → List Char → Nat × Nat
  | _, line, column, [] => (line, column)
  | offset, line, column, c :: cs =>
    if offset < c.utf8Size then (line, column + offset)
    else if c = '\n' then place (offset - 1) (line + 1) 0 cs
    else place (offset - c.utf8Size) line (column + c.utf8Size) cs

/-- A text as a value, or the reason and place of its first fault in words. -/
def read (s : String) : Except String Json :=
  let cs := s.toList
  match readChars cs with
  | .ok v => .ok v
  | .error e =>
    let (line, column) := place (byteLength cs - e.remaining) 1 0 cs
    .error (e.fault.text ++ " at line " ++ toString line ++ " column " ++ toString column)

end ModelDepot.Json
