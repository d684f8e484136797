import ModelDepot.Text.Basic

/-!
# Percent encoding

Bytes of an address that may not stand for themselves are written as a percent sign and two
hexadecimal digits. Which ones these are depends on the part of the address.
-/

namespace ModelDepot.Endpoint

def upperHexDigit (n : Nat) : Char :=
  (Nat.digitChar n).toUpper

def percentByte (b : UInt8) : List Char :=
  ['%', upperHexDigit (b.toNat / 16), upperHexDigit (b.toNat % 16)]

def utf8 (c : Char) : List UInt8 :=
  (String.singleton c).toUTF8.toList

/-- Encodes what is not ASCII, the controls, and the given characters. -/
def encodeChar (also : String) (c : Char) : List Char :=
  if c.toNat < 0x20 || 0x7f ≤ c.toNat || also.toList.contains c then
    (utf8 c).flatMap percentByte
  else [c]

def encode (also : String) (cs : List Char) : List Char :=
  cs.flatMap (encodeChar also)

def fragmentSet : String := " \"<>\x60"

def pathSet : String := fragmentSet ++ "#?\x7b\x7d"

def userSet : String := pathSet ++ "/:;=@[\\]^|"

def querySet : String := " \"#<>'"

/-- The bytes of a text, encoded ones decoded. A percent sign without two digits behind it stands
for itself. -/
def decode : List Char → List UInt8
  | [] => []
  | '%' :: a :: b :: rest =>
    match hexDigit? a, hexDigit? b with
    | some a, some b => UInt8.ofNat (a * 16 + b) :: decode rest
    | _, _ => utf8 '%' ++ decode (a :: b :: rest)
  | c :: rest => utf8 c ++ decode rest

/-- One byte of a value in a query: letters, digits and a few marks stand for themselves, a blank
is a plus sign. -/
def formByte (b : UInt8) : List Char :=
  let c := Char.ofNat b.toNat
  if b.toNat < 0x80 && (c.isAlphanum || c == '*' || c == '-' || c == '.' || c == '_') then [c]
  else if c == ' ' then ['+']
  else percentByte b

/-- A value in a query. -/
def formEncode (s : String) : String :=
  String.ofList (s.toUTF8.toList.flatMap formByte)

end ModelDepot.Endpoint
