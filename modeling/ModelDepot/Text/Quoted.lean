import ModelDepot.Text.Invisible

/-!
# Quoted text

A quotation shows a text between double quotes such that every character can be told apart: the
quote and the backslash are escaped, the common controls have letters, and any other invisible
character is written by its code point in braces.
-/

namespace ModelDepot.Text

def hex (n : Nat) : String :=
  String.ofList (Nat.toDigits 16 n)

def quoteChar (c : Char) : String :=
  match c with
  | '"' => "\\\""
  | '\\' => "\\\\"
  | '\n' => "\\n"
  | '\r' => "\\r"
  | '\t' => "\\t"
  | '\x00' => "\\0"
  | c =>
    if isInvisible c then
      "\\u\x7b" ++ hex c.toNat ++ "\x7d"
    else
      c.toString

def quote (s : String) : String :=
  "\"" ++ String.join (s.toList.map quoteChar) ++ "\""

end ModelDepot.Text
