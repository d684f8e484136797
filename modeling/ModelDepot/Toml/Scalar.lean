import ModelDepot.Text.Basic
import ModelDepot.Toml.Value

/-!
# Scalars of TOML

Scanners for keys, strings, numbers, dates and times. A scanner takes what it knows from the front
of the text and gives back the rest, or refuses.
-/

namespace ModelDepot.Toml

/-- A scanner: what it takes, and the rest of the text. -/
abbrev Scanner (α : Type) := List Char → Option (α × List Char)

def isBlank (c : Char) : Bool :=
  c == ' ' || c == '\t'

def skipBlanks (cs : List Char) : List Char :=
  cs.dropWhile isBlank

/-- The rest after a line break; none when there is none. -/
def lineBreak? : List Char → Option (List Char)
  | '\n' :: rest => some rest
  | '\r' :: '\n' :: rest => some rest
  | _ => none

/-- A character that may stand in a comment or between quotes: no control but the tab. -/
def isText (c : Char) : Bool :=
  c == '\t' || (0x20 ≤ c.toNat && c.toNat ≠ 0x7f)

/-! ## Strings -/

def hexDigits : Nat → Nat → Scanner Nat
  | 0, value, cs => some (value, cs)
  | n + 1, value, c :: cs => do hexDigits n (value * 16 + (← hexDigit? c)) cs
  | _ + 1, _, [] => none

def charOfCode (n : Nat) : Option Char :=
  if n.isValidChar then some (Char.ofNat n) else none

/-- The character of an escape, its backslash already read. -/
def escape : Scanner Char
  | 'b' :: cs => some ('\x08', cs)
  | 't' :: cs => some ('\t', cs)
  | 'n' :: cs => some ('\n', cs)
  | 'f' :: cs => some ('\x0c', cs)
  | 'r' :: cs => some ('\r', cs)
  | '"' :: cs => some ('"', cs)
  | '\\' :: cs => some ('\\', cs)
  | 'u' :: cs => do
    let (n, cs) ← hexDigits 4 0 cs
    return (← charOfCode n, cs)
  | 'U' :: cs => do
    let (n, cs) ← hexDigits 8 0 cs
    return (← charOfCode n, cs)
  | _ => none

/-- The characters of a string up to its quote; the number is fuel, one for each character. -/
def basicChars : Nat → Scanner (List Char)
  | 0, _ => none
  | _ + 1, [] => none
  | fuel + 1, c :: cs =>
    if c = '"' then some ([], cs)
    else if c = '\\' then do
      let (e, cs) ← escape cs
      let (more, cs) ← basicChars fuel cs
      return (e :: more, cs)
    else if isText c then do
      let (more, cs) ← basicChars fuel cs
      return (c :: more, cs)
    else none

/-- The characters of a string without escapes, up to its quote. -/
def literalChars : Scanner (List Char)
  | [] => none
  | c :: cs =>
    if c = '\'' then some ([], cs)
    else if isText c then do
      let (more, cs) ← literalChars cs
      return (c :: more, cs)
    else none

def skipLines : Nat → List Char → List Char
  | 0, cs => cs
  | fuel + 1, cs =>
    let cs := skipBlanks cs
    match lineBreak? cs with
    | some rest => skipLines fuel rest
    | none => cs

/-- A string over several lines, up to its three quotes. One or two quotes right before these are
part of the string. A backslash at the end of a line takes away the break and the blanks and breaks
behind it; a line break is always a single newline. -/
def multilineChars (quote : Char) (escapes : Bool) : Nat → Scanner (List Char)
  | 0, _ => none
  | fuel + 1, cs =>
    match cs with
    | [] => none
    | c :: rest =>
      if c = quote then
        let run := (cs.takeWhile (· == quote)).length
        if run < 3 then do
          let (more, cs) ← multilineChars quote escapes fuel rest
          return (c :: more, cs)
        else
          let kept := min (run - 3) 2
          some (List.replicate kept quote, cs.drop (kept + 3))
      else if escapes && c == '\\' then
        match lineBreak? (skipBlanks rest) with
        | some below => multilineChars quote escapes fuel (skipLines fuel below)
        | none => do
          let (e, cs) ← escape rest
          let (more, cs) ← multilineChars quote escapes fuel cs
          return (e :: more, cs)
      else
        match lineBreak? cs with
        | some below => do
          let (more, cs) ← multilineChars quote escapes fuel below
          return ('\n' :: more, cs)
        | none =>
          if isText c then do
            let (more, cs) ← multilineChars quote escapes fuel rest
            return (c :: more, cs)
          else none

/-- A string over several lines, its opening quotes already read. A line break right behind them is
no part of it. -/
def multiline (quote : Char) (escapes : Bool) : Scanner String := fun cs => do
  let body := (lineBreak? cs).getD cs
  let (chars, rest) ← multilineChars quote escapes (cs.length + 1) body
  return (String.ofList chars, rest)

def lineString : Scanner String
  | '"' :: cs =>
    (basicChars (cs.length + 1) cs).map fun (chars, rest) => (String.ofList chars, rest)
  | '\'' :: cs => (literalChars cs).map fun (chars, rest) => (String.ofList chars, rest)
  | _ => none

def anyString : Scanner String
  | '"' :: '"' :: '"' :: cs => multiline '"' true cs
  | '\'' :: '\'' :: '\'' :: cs => multiline '\'' false cs
  | cs => lineString cs

/-! ## Keys -/

def isBareKeyChar (c : Char) : Bool :=
  c.isAlphanum || c == '-' || c == '_'

def simpleKey (cs : List Char) : Option (String × List Char) :=
  match cs with
  | '"' :: _ | '\'' :: _ => lineString cs
  | _ =>
    let chars := cs.takeWhile isBareKeyChar
    if chars.isEmpty then none else some (String.ofList chars, cs.dropWhile isBareKeyChar)

/-- The parts of a dotted key, with blanks around them. -/
def keyParts : Nat → Scanner (List String)
  | 0, _ => none
  | fuel + 1, cs => do
    let (part, cs) ← simpleKey (skipBlanks cs)
    match skipBlanks cs with
    | '.' :: cs => do
      let (more, cs) ← keyParts fuel cs
      return (part :: more, cs)
    | cs => return ([part], cs)

/-- A dotted key must have fewer parts than this, and values stand in each other fewer levels
deep. -/
def depthLimit : Nat := 80

/-- A key: its parts before the last one, and the last one. -/
def key : Scanner (List String × String) := fun cs => do
  let (parts, cs) ← keyParts (cs.length + 1) cs
  if depthLimit ≤ parts.length then none
  else
    let last ← parts.getLast?
    return ((parts.dropLast, last), cs)

/-! ## Numbers -/

/-- What may follow a digit: more digits, with single underscores between them. -/
def moreDigits (isDigit : Char → Bool) : Scanner (List Char)
  | [] => some ([], [])
  | '_' :: [] => none
  | '_' :: d :: cs =>
    if isDigit d then (moreDigits isDigit cs).map fun (ds, rest) => (d :: ds, rest) else none
  | d :: cs =>
    if isDigit d then (moreDigits isDigit cs).map fun (ds, rest) => (d :: ds, rest)
    else some ([], d :: cs)

def digitRun (isDigit : Char → Bool) : Scanner (List Char)
  | [] => none
  | d :: cs =>
    if isDigit d then (moreDigits isDigit cs).map fun (ds, rest) => (d :: ds, rest) else none

/-- The digits of a decimal integer, without zeros in front. -/
def decimalDigits : Scanner (List Char)
  | '0' :: cs => some (['0'], cs)
  | cs => digitRun Char.isDigit cs

def sign : List Char → Bool × List Char
  | '-' :: cs => (true, cs)
  | '+' :: cs => (false, cs)
  | cs => (false, cs)

/-- An integer of a signed 64-bit word. -/
def word (negative : Bool) (n : Nat) : Option Value :=
  if negative then if n ≤ 0x8000000000000000 then some (.integer (-(n : Int))) else none
  else if n < 0x8000000000000000 then some (.integer n) else none

def isHexDigit (c : Char) : Bool :=
  (hexDigit? c).isSome

def isOctalDigit (c : Char) : Bool := '0' ≤ c && c ≤ '7'
def isBinaryDigit (c : Char) : Bool := c == '0' || c == '1'

/-- An integer of a base, its mark already read. -/
def basedInteger (base : Nat) (isDigit : Char → Bool) : Scanner Value := fun cs => do
  let (digits, rest) ← digitRun isDigit cs
  return (← word false ((ofBase base digits).getD 0), rest)

def integer : Scanner Value
  | '0' :: 'x' :: cs => basedInteger 16 isHexDigit cs
  | '0' :: 'o' :: cs => basedInteger 8 isOctalDigit cs
  | '0' :: 'b' :: cs => basedInteger 2 isBinaryDigit cs
  | cs => do
    let (negative, cs) := sign cs
    let (digits, rest) ← decimalDigits cs
    return (← word negative ((ofBase 10 digits).getD 0), rest)

/-- Magnitudes with a first digit beyond these powers of ten are infinite or zero. -/
def powerLimit : Int := 400

/-- The number nearest to `coefficient * 10 ^ exponent`. A positive one that is too large has no
value; a negative one is infinite. -/
def decimalFloat (negative : Bool) (coefficient : Nat) (exponent : Int) : Option Binary64 :=
  let leading := (Nat.toDigits 10 coefficient).length + exponent
  let x :=
    if coefficient = 0 ∨ leading < -powerLimit then Binary64.ofMagnitude negative 0
    else if powerLimit < leading then .infinity negative
    else .ofRatio negative (coefficient * Nat.pow 10 exponent.toNat) (Nat.pow 10 (-exponent).toNat)
  if !negative && !x.isFinite then none else some x

def fraction : Scanner (List Char)
  | '.' :: cs => digitRun Char.isDigit cs
  | _ => none

def exponent : Scanner Int
  | c :: cs =>
    if c = 'e' ∨ c = 'E' then do
      let (negative, cs) := sign cs
      let (digits, rest) ← digitRun Char.isDigit cs
      let e : Int := (ofBase 10 digits).getD 0
      return (if negative then -e else e, rest)
    else none
  | [] => none

/-- A word for what is no finite number, its sign already read. -/
def specialFloat (negative : Bool) : Scanner Binary64
  | 'i' :: 'n' :: 'f' :: cs => some (.infinity negative, cs)
  | 'n' :: 'a' :: 'n' :: cs => some (if negative then Binary64.nan.neg else .nan, cs)
  | _ => none

def float : Scanner Value := fun cs =>
  let (negative, cs) := sign cs
  match specialFloat negative cs with
  | some (x, rest) => some (.float x, rest)
  | none => do
    let (whole, cs) ← decimalDigits cs
    match fraction cs with
    | some (places, cs) =>
      let (e, rest) := (exponent cs).getD (0, cs)
      let x ← decimalFloat negative ((ofBase 10 (whole ++ places)).getD 0) (e - places.length)
      return (.float x, rest)
    | none =>
      let (e, rest) ← exponent cs
      let x ← decimalFloat negative ((ofBase 10 whole).getD 0) e
      return (.float x, rest)

/-! ## Dates and times -/

def fixedDigits (n : Nat) : Scanner Nat := fun cs =>
  let digits := cs.take n
  if digits.length = n ∧ digits.all Char.isDigit then some ((ofBase 10 digits).getD 0, cs.drop n)
  else none

/-- A number of `n` digits within bounds. -/
def bounded (n low high : Nat) : Scanner Nat := fun cs => do
  let (value, rest) ← fixedDigits n cs
  if low ≤ value ∧ value ≤ high then some (value, rest) else none

def expect (c : Char) : List Char → Option (List Char)
  | d :: cs => if d = c then some cs else none
  | [] => none

def daysInMonth (year month : Nat) : Nat :=
  if month = 2 then
    if year % 4 = 0 ∧ (year % 100 ≠ 0 ∨ year % 400 = 0) then 29 else 28
  else if month = 4 ∨ month = 6 ∨ month = 9 ∨ month = 11 then 30
  else 31

def date (cs : List Char) : Option (List Char) := do
  let (year, cs) ← fixedDigits 4 cs
  let cs ← expect '-' cs
  let (month, cs) ← bounded 2 1 12 cs
  let cs ← expect '-' cs
  let (_, cs) ← bounded 2 1 (daysInMonth year month) cs
  return cs

/-- The rest behind a time of day. A minute may have a leap second. -/
def time (cs : List Char) : Option (List Char) := do
  let (_, cs) ← bounded 2 0 23 cs
  let cs ← expect ':' cs
  let (_, cs) ← bounded 2 0 59 cs
  let cs ← expect ':' cs
  let (_, cs) ← bounded 2 0 60 cs
  match cs with
  | '.' :: d :: more => if d.isDigit then return more.dropWhile Char.isDigit else return cs
  | _ => return cs

def offset (cs : List Char) : Option (List Char) :=
  match cs with
  | c :: more =>
    if c = 'Z' ∨ c = 'z' then some more
    else if c = '+' ∨ c = '-' then do
      let (_, cs) ← bounded 2 0 23 more
      let cs ← expect ':' cs
      let (_, cs) ← bounded 2 0 59 cs
      return cs
    else some cs
  | [] => some []

/-- The rest behind the time that follows a date, or behind the date if none does. -/
def timeOfDate (cs : List Char) : Option (List Char) :=
  match cs with
  | c :: more =>
    if c = 'T' ∨ c = 't' ∨ c = ' ' then
      match time more with
      | some rest => offset rest
      | none => some cs
    else some cs
  | [] => some []

def datetime : Scanner Value := fun cs => do
  let rest ←
    match date cs with
    | some rest => timeOfDate rest
    | none => time cs
  return (.datetime (String.ofList (cs.take (cs.length - rest.length))), rest)

end ModelDepot.Toml
