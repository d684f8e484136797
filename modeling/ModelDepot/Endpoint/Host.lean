import ModelDepot.Endpoint.Domain

/-!
# Hosts

The host of an address: a domain, or the number of a machine in one of its notations. Numbers are
normalised, so that each machine has one text.
-/

namespace ModelDepot.Endpoint

inductive Fault where
  /-- There is no scheme in front. -/
  | noScheme
  | emptyHost
  | invalidPort
  | invalidIpv4
  | invalidIpv6
  /-- A domain that cannot be. -/
  | invalidDomain
  /-- A character that the host of an unknown scheme may not have. -/
  | invalidCharacter
  | unsupportedScheme (scheme : String)
  deriving DecidableEq, Repr

def Fault.message : Fault → String
  | noScheme => "relative URL without a base"
  | emptyHost => "empty host"
  | invalidPort => "invalid port number"
  | invalidIpv4 => "invalid IPv4 address"
  | invalidIpv6 => "invalid IPv6 address"
  | invalidDomain => "invalid international domain name"
  | invalidCharacter => "invalid domain character"
  | unsupportedScheme scheme => "unsupported scheme " ++ scheme

inductive Host where
  | domain (name : String)
  | ipv4 (number : Nat)
  /-- Eight pieces of 16 bits. -/
  | ipv6 (pieces : List Nat)
  deriving DecidableEq, Repr

/-! ## Numbers of four bytes -/

/-- One part of an address of four bytes: decimal, octal behind a zero, or hexadecimal behind
`0x`. -/
def ipv4Part : List Char → Option Nat
  | [] => none
  | '0' :: 'x' :: cs | '0' :: 'X' :: cs => ofBase 16 cs
  | '0' :: c :: cs => ofBase 8 (c :: cs)
  | cs => ofBase 10 cs

/-- The domain is to be read as a number: its last part is one. -/
def endsInNumber (name : List Char) : Bool :=
  let last :=
    match (labels name).reverse with
    | [] :: l :: _ => l
    | [] :: [] => []
    | l :: _ => l
    | [] => []
  (!last.isEmpty && last.all Char.isDigit) || (ipv4Part last).isSome

/-- The parts of an address as one number: the last part fills all bytes that remain. -/
def combine (parts : List Nat) : Option Nat :=
  match parts.reverse with
  | [] => none
  | last :: before =>
    let before := before.reverse
    let room := Nat.pow 256 (4 - before.length)
    if room ≤ last ∨ before.any (255 < ·) then none
    else some (before.foldl (fun n byte => n * 256 + byte) 0 * room + last)

/-- An address of four bytes. -/
def readIpv4 (name : List Char) : Option Nat :=
  let parts := labels name
  let parts := if parts.getLast? == some [] then parts.dropLast else parts
  if 4 < parts.length then none
  else (parts.mapM ipv4Part).bind combine

def ipv4Text (n : Nat) : String :=
  ".".intercalate ([3, 2, 1, 0].map fun i => toString (n / Nat.pow 256 i % 256))

/-! ## Numbers of sixteen bytes -/

/-- One to three decimal digits without zeros in front, as a byte. -/
def byteOf (cs : List Char) : Option Nat :=
  match cs with
  | [] => none
  | ['0'] => some 0
  | '0' :: _ => none
  | cs => do
    if !cs.all Char.isDigit then none
    else
      let n ← ofBase 10 cs
      if n ≤ 255 then some n else none

/-- Four bytes with dots between them, as two pieces. -/
def embeddedIpv4 (cs : List Char) : Option (List Nat) := do
  match ← (labels cs).mapM byteOf with
  | [a, b, c, d] => some [a * 256 + b, c * 256 + d]
  | _ => none

/-- The pieces up to a double colon or the end, and the text behind the double colon. The last two
pieces may be four bytes with dots. -/
def ipv6Pieces : Nat → List Char → Option (List Nat × Option (List Char))
  | 0, _ => none
  | fuel + 1, cs =>
    let digits := (cs.take 4).takeWhile fun c => (hexDigit? c).isSome
    match cs.drop digits.length with
    | [] => if digits.isEmpty then none else (ofBase 16 digits).map fun n => ([n], none)
    | '.' :: _ =>
      if digits.isEmpty then none else (embeddedIpv4 cs).map fun ns => (ns, none)
    | ':' :: ':' :: rest =>
      if digits.isEmpty then none else (ofBase 16 digits).map fun n => ([n], some rest)
    | ':' :: rest =>
      if digits.isEmpty then none
      else do
        let n ← ofBase 16 digits
        let (more, tail) ← ipv6Pieces fuel rest
        return (n :: more, tail)
    | _ => none

/-- The pieces of a text that may be empty and has no double colon. -/
def ipv6Run (cs : List Char) : Option (List Nat) :=
  if cs.isEmpty then some []
  else
    match ipv6Pieces (cs.length + 1) cs with
    | some (pieces, none) => some pieces
    | _ => none

/-- An address of sixteen bytes. A double colon stands for one zero piece or more. -/
def readIpv6 (cs : List Char) : Option (List Nat) := do
  let (before, after) ←
    match cs with
    | ':' :: ':' :: rest => some ([], some rest)
    | cs => ipv6Pieces (cs.length + 1) cs
  match after with
  | none => if before.length = 8 then some before else none
  | some rest =>
    let after ← ipv6Run rest
    let given := before.length + after.length
    if given < 8 then some (before ++ List.replicate (8 - given) 0 ++ after) else none

def zeroRun (pieces : List Nat) : Nat :=
  (pieces.takeWhile (· == 0)).length

/-- Where the longest run of zeros begins, and its length; of equally long ones the first. -/
def longestZeros (pieces : List Nat) : Nat × Nat :=
  (List.range pieces.length).foldl
    (fun best i =>
      let n := zeroRun (pieces.drop i)
      if best.2 < n then (i, n) else best)
    (0, 0)

/-- A piece in hexadecimal, without zeros in front. -/
def pieceText (n : Nat) : String :=
  String.ofList (Nat.toDigits 16 n)

/-- An address of sixteen bytes; the longest run of two zero pieces or more is a double colon. -/
def ipv6Text (pieces : List Nat) : String :=
  let (start, length) := longestZeros pieces
  let written (ps : List Nat) : String := ":".intercalate (ps.map pieceText)
  if length < 2 then written pieces
  else written (pieces.take start) ++ "::" ++ written (pieces.drop (start + length))

/-! ## Hosts -/

/-- A text in brackets as an address of sixteen bytes; none for a text without brackets. -/
def bracketed (cs : List Char) : Option (Except Fault Host) :=
  match cs with
  | '[' :: rest =>
    some <|
      if rest.getLast? == some ']' then
        ((readIpv6 rest.dropLast).map Host.ipv6).elim (.error .invalidIpv6) .ok
      else .error .invalidIpv6
  | _ => none

/-- The host of a scheme that is known: a number, or a domain in its ASCII form. -/
def Host.read (cs : List Char) : Except Fault Host :=
  match bracketed cs with
  | some host => host
  | none =>
    match Domain.toAscii (Text.lossy (decode cs)) with
    | none => .error .invalidDomain
    | some name =>
      if name.isEmpty then .error .emptyHost
      else if endsInNumber name then
        ((readIpv4 name).map Host.ipv4).elim (.error .invalidIpv4) .ok
      else .ok (.domain (String.ofList name))

/-- What the host of an unknown scheme may not have. -/
def forbiddenHostChars : String := "\x00\t\n\r #/:<>?@[\\]^|"

def Host.readOpaque (cs : List Char) : Except Fault Host :=
  match bracketed cs with
  | some host => host
  | none =>
    if cs.any forbiddenHostChars.toList.contains then .error .invalidCharacter
    else .ok (.domain (String.ofList (encode "" cs)))

def Host.text : Host → String
  | .domain name => name
  | .ipv4 n => ipv4Text n
  | .ipv6 pieces => "[" ++ ipv6Text pieces ++ "]"

end ModelDepot.Endpoint
