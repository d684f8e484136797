/-!
# Bytes as text

UTF-8 read from bytes that may not be UTF-8: whatever cannot be part of a character becomes a
replacement character. Bytes that begin a character but do not finish it are replaced together.
-/

namespace ModelDepot.Text

def replacement : Char := Char.ofNat 0xfffd

/-- The bytes a character has behind its first byte, and the bounds of the next byte. None for a
byte that begins no character. -/
def continuation (first : Nat) : Option (Nat × Nat × Nat) :=
  if 0xc2 ≤ first ∧ first ≤ 0xdf then some (1, 0x80, 0xbf)
  else if first = 0xe0 then some (2, 0xa0, 0xbf)
  else if first = 0xed then some (2, 0x80, 0x9f)
  else if 0xe1 ≤ first ∧ first ≤ 0xef then some (2, 0x80, 0xbf)
  else if first = 0xf0 then some (3, 0x90, 0xbf)
  else if 0xf1 ≤ first ∧ first ≤ 0xf3 then some (3, 0x80, 0xbf)
  else if first = 0xf4 then some (3, 0x80, 0x8f)
  else none

/-- The bits that the first byte of a character of so many further bytes gives. -/
def leadingBits (more first : Nat) : Nat :=
  first % Nat.pow 2 (6 - more)

/-- Takes up to `more` further bytes of a character, the next of them within the bounds; the
character if all are there, and the bytes left. -/
def takeMore : Nat → Nat → Nat → Nat → List Nat → Option Nat × List Nat
  | 0, _, _, value, bytes => (some value, bytes)
  | more + 1, low, high, value, b :: bytes =>
    if low ≤ b ∧ b ≤ high then takeMore more 0x80 0xbf (value * 64 + b % 64) bytes
    else (none, b :: bytes)
  | _ + 1, _, _, _, [] => (none, [])

/-- The characters of bytes. The number is fuel, one for each byte. -/
def lossyChars : Nat → List Nat → List Char
  | 0, _ => []
  | _ + 1, [] => []
  | fuel + 1, b :: bytes =>
    if b < 0x80 then Char.ofNat b :: lossyChars fuel bytes
    else
      match continuation b with
      | none => replacement :: lossyChars fuel bytes
      | some (more, low, high) =>
        let (code, rest) := takeMore more low high (leadingBits more b) bytes
        (code.elim replacement Char.ofNat) :: lossyChars fuel rest

/-- The text of bytes, with replacements where they are not UTF-8. -/
def lossy (bytes : List UInt8) : String :=
  String.ofList (lossyChars bytes.length (bytes.map (·.toNat)))

end ModelDepot.Text
