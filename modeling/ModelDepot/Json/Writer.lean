import ModelDepot.Json.Basic
import ModelDepot.Number.Decimal

/-!
# JSON text of a value

The compact form: no blanks, members in the order the value holds them, and only what must be
escaped is escaped.
-/

namespace ModelDepot.Json

def escapeChar (c : Char) : List Char :=
  match c with
  | '"' => ['\\', '"']
  | '\\' => ['\\', '\\']
  | '\n' => ['\\', 'n']
  | '\r' => ['\\', 'r']
  | '\t' => ['\\', 't']
  | '\x08' => ['\\', 'b']
  | '\x0c' => ['\\', 'f']
  | c =>
    if c.toNat < 0x20 then
      ['\\', 'u', '0', '0', Nat.digitChar (c.toNat / 16), Nat.digitChar (c.toNat % 16)]
    else [c]

/-- A text as a JSON string, quotes included. -/
def stringChars (s : String) : List Char :=
  '"' :: s.toList.flatMap escapeChar ++ ['"']

def Number.text : Number → String
  | .integer i => (if i < 0 then "-" else "") ++ decimalText i.natAbs
  | .float x => x.shortestText

mutual

def chars : Json → List Char
  | .null => ['n', 'u', 'l', 'l']
  | .bool true => ['t', 'r', 'u', 'e']
  | .bool false => ['f', 'a', 'l', 's', 'e']
  | .number n => n.text.toList
  | .string s => stringChars s
  | .array items => '[' :: itemChars items ++ [']']
  | .object members => '{' :: memberChars members ++ ['}']

def itemChars : List Json → List Char
  | [] => []
  | [item] => item.chars
  | item :: more => item.chars ++ ',' :: itemChars more

def memberChars : List (String × Json) → List Char
  | [] => []
  | [(key, value)] => stringChars key ++ ':' :: value.chars
  | (key, value) :: more => stringChars key ++ ':' :: value.chars ++ ',' :: memberChars more

end

def text (v : Json) : String :=
  String.ofList v.chars

end ModelDepot.Json
