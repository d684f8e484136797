import ModelDepot.Number.Binary64

/-!
# Decimal texts of floating-point numbers

Two ways to write a number: with the fewest digits that read back as the same number, and with a
fixed count of decimal places.
-/

namespace ModelDepot

def decimalText (n : Nat) : String :=
  String.ofList (Nat.toDigits 10 n)

def decimalLength (n : Nat) : Nat :=
  (Nat.toDigits 10 n).length

/-- A decimal number `coefficient * 10 ^ exponent`. -/
structure Decimal where
  coefficient : Nat
  exponent : Int
  deriving DecidableEq, Repr

namespace Decimal

/-- The same number without zeros at the end of its coefficient. -/
def stripped (d : Decimal) : Decimal :=
  go (decimalLength d.coefficient) d
where
  /-- Takes away at most `n` zeros. -/
  go : Nat → Decimal → Decimal
    | 0, d => d
    | n + 1, d =>
      if d.coefficient % 10 = 0 ∧ d.coefficient ≠ 0 then
        go n ⟨d.coefficient / 10, d.exponent + 1⟩
      else d

/-- The power of ten of the first digit. -/
def leading (d : Decimal) : Int :=
  (decimalLength d.coefficient : Int) - 1 + d.exponent

end Decimal

namespace Binary64

/-- The power of ten of the first digit of `n / d`, for a positive `n`. -/
def leadingPower (n d : Nat) : Int :=
  if d ≤ n then (decimalLength (n / d) : Int) - 1
  else -(decimalLength ((d + n - 1) / n - 1) : Int)

/-- On the grid of multiples of `10 ^ e`, the point nearest to `n / d` among its two neighbours
that lie between `low / d` and `high / d`. The ends count when `closed` says so. -/
def nearestOnGrid (n d low high : Nat) (closed : Bool) (e : Int) : Option Nat :=
  let up := Nat.pow 10 (-e).toNat
  let down := Nat.pow 10 e.toNat
  let below := n * up / (d * down)
  let inside (k : Nat) : Bool :=
    let point := k * d * down
    if closed then low * up ≤ point && point ≤ high * up
    else low * up < point && point < high * up
  let offBelow := n * up - below * d * down
  let offAbove := (below + 1) * d * down - n * up
  match inside below, inside (below + 1) with
  | true, true =>
    if offBelow < offAbove then some below
    else if offAbove < offBelow then some (below + 1)
    else some (below + below % 2)
  | true, false => some below
  | false, true => some (below + 1)
  | false, false => none

/-- The decimal with the fewest digits that reads back as the given positive finite magnitude,
and of those the nearest. -/
def shortestOfMagnitude (m : Nat) : Decimal :=
  let here := unitsOfMagnitude m
  let n := 2 * here
  let d := 2 * unitsOfOne
  let low := unitsOfMagnitude (m - 1) + here
  let high := here + unitsOfMagnitude (m + 1)
  let first := leadingPower n d
  let grids := (List.range 17).map fun (k : Nat) => first - (k : Int)
  match grids.findSome? fun e => (nearestOnGrid n d low high (m % 2 == 0) e).map (⟨·, e⟩) with
  | some decimal => Decimal.stripped decimal
  | none =>
    Decimal.stripped
      ⟨divEven (n * Nat.pow 10 (16 - first).toNat) (d * Nat.pow 10 (first - 16).toNat),
        first - 16⟩

/-- Zeros before or after a run of digits. -/
def zeros (n : Nat) : String :=
  String.ofList (List.replicate n '0')

/-- A decimal in positional notation, with at least one digit on each side of the point. -/
def positional (d : Decimal) : String :=
  let digits := (Nat.toDigits 10 d.coefficient)
  if 0 ≤ d.exponent then
    String.ofList digits ++ zeros d.exponent.toNat ++ ".0"
  else
    let places := (-d.exponent).toNat
    if places < digits.length then
      String.ofList (digits.take (digits.length - places)) ++ "." ++
        String.ofList (digits.drop (digits.length - places))
    else
      "0." ++ zeros (places - digits.length) ++ String.ofList digits

/-- A decimal in scientific notation: a signed exponent, and a point only before more digits. -/
def scientific (d : Decimal) : String :=
  let mantissa :=
    match Nat.toDigits 10 d.coefficient with
    | [] => "0"
    | [digit] => String.singleton digit
    | digit :: more => String.singleton digit ++ "." ++ String.ofList more
  let sign := if d.leading < 0 then "-" else "+"
  mantissa ++ "e" ++ sign ++ decimalText d.leading.natAbs

/-- A finite number with the fewest digits that read back: positional while its first digit
stands between the fifth decimal place and the sixteenth place before the point, scientific
elsewhere. -/
def shortestText (x : Binary64) : String :=
  let sign := if x.isNegative then "-" else ""
  if x.magnitude = 0 then sign ++ "0.0"
  else
    let d := shortestOfMagnitude x.magnitude
    if -5 ≤ d.leading ∧ d.leading ≤ 15 then sign ++ positional d else sign ++ scientific d

/-- A finite number with the given count of decimal places; the exact value is rounded, a half to
the even digit. -/
def fixedText (places : Nat) (x : Binary64) : String :=
  let sign := if x.isNegative then "-" else ""
  let unit := Nat.pow 10 places
  let scaled := divEven (x.units * unit) unitsOfOne
  if places = 0 then sign ++ decimalText scaled
  else
    let fraction := decimalText (scaled % unit)
    sign ++ decimalText (scaled / unit) ++ "." ++
      zeros (places - fraction.length) ++ fraction

/-- The sixteen hexadecimal digits of the bits. -/
def hexText (x : Binary64) : String :=
  let digits := Nat.toDigits 16 x.bits.toNat
  zeros (16 - digits.length) ++ String.ofList digits

end Binary64

end ModelDepot
