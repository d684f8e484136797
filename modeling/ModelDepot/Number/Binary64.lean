/-!
# Binary floating-point numbers of 64 bits

A number is its bit pattern. The 63 bits below the sign order the magnitudes, and every finite
magnitude is a whole number of units of 2^-1074, so all arithmetic here is exact arithmetic on
natural numbers followed by one rounding to the nearest representable number, ties to even.
-/

namespace ModelDepot

/-- A floating-point number, by its bits: sign, eleven bits of exponent, 52 of fraction. -/
structure Binary64 where
  bits : UInt64
  deriving DecidableEq, Inhabited, Repr

namespace Binary64

def signBit : Nat := 0x8000000000000000

/-- The bits of infinity; magnitudes above it are not numbers. -/
def infinityBits : Nat := 0x7ff0000000000000

/-- The magnitudes of one exponent: 52 bits of fraction. -/
def fractions : Nat := 0x10000000000000

/-- Units in the number one: a unit is the smallest positive magnitude. -/
def unitsOfOne : Nat := Nat.pow 2 1074

/-- The bits below the sign. Larger bits mean a larger magnitude. -/
def magnitude (x : Binary64) : Nat :=
  x.bits.toNat % signBit

/-- The sign bit is set. Zero has a sign too. -/
def isNegative (x : Binary64) : Bool :=
  signBit ≤ x.bits.toNat

def isNaN (x : Binary64) : Bool :=
  infinityBits < x.magnitude

def isFinite (x : Binary64) : Bool :=
  x.magnitude < infinityBits

/-- A number from its sign and the bits of its magnitude. -/
def ofMagnitude (negative : Bool) (m : Nat) : Binary64 :=
  ⟨UInt64.ofNat (m + if negative then signBit else 0)⟩

def zero : Binary64 := ⟨0⟩
def nan : Binary64 := ofMagnitude false (infinityBits + fractions / 2)
def infinity (negative : Bool) : Binary64 := ofMagnitude negative infinityBits

/-- The whole number of units that magnitude bits stand for. -/
def unitsOfMagnitude (m : Nat) : Nat :=
  let exponent := m / fractions
  let fraction := m % fractions
  if exponent = 0 then fraction else (fractions + fraction) * Nat.pow 2 (exponent - 1)

/-- The size of a finite number in units of 2^-1074. -/
def units (x : Binary64) : Nat :=
  unitsOfMagnitude x.magnitude

/-- A finite number as a signed count of units. -/
def signedUnits (x : Binary64) : Int :=
  if x.isNegative then -(x.units : Int) else x.units

/-- The quotient rounded to the nearest whole number; a half goes to the even neighbour. -/
def divEven (n d : Nat) : Nat :=
  let q := n / d
  let r := n % d
  if 2 * r < d then q else if d < 2 * r then q + 1 else q + q % 2

/-- The magnitude bits nearest to `n / d` units. Up to 2^53 units the bits count the units;
above, every doubling of the number doubles the spacing. -/
def magnitudeOfUnits (n d : Nat) : Nat :=
  let shift := (n / d).log2 - 52
  min infinityBits (shift * fractions + divEven n (d * Nat.pow 2 shift))

/-- The number nearest to `n / d`, with a sign. -/
def ofRatio (negative : Bool) (n d : Nat) : Binary64 :=
  ofMagnitude negative (magnitudeOfUnits (n * unitsOfOne) d)

def ofNat (n : Nat) : Binary64 :=
  ofRatio false n 1

def ofInt (i : Int) : Binary64 :=
  ofRatio (i < 0) i.natAbs 1

def neg (x : Binary64) : Binary64 :=
  ofMagnitude (!x.isNegative) x.magnitude

/-- The rounded sum. A sum of exactly zero is negative only when both parts are. -/
def add (x y : Binary64) : Binary64 :=
  if x.isNaN || y.isNaN then nan
  else if !x.isFinite then
    if y.isFinite || x.isNegative == y.isNegative then x else nan
  else if !y.isFinite then y
  else
    let s := x.signedUnits + y.signedUnits
    if s = 0 then ofMagnitude (x.isNegative && y.isNegative) 0
    else ofMagnitude (s < 0) (magnitudeOfUnits s.natAbs 1)

def mul (x y : Binary64) : Binary64 :=
  let negative := x.isNegative != y.isNegative
  if x.isNaN || y.isNaN then nan
  else if !x.isFinite || !y.isFinite then
    if x.magnitude = 0 || y.magnitude = 0 then nan else infinity negative
  else ofMagnitude negative (magnitudeOfUnits (x.units * y.units) unitsOfOne)

def div (x y : Binary64) : Binary64 :=
  let negative := x.isNegative != y.isNegative
  if x.isNaN || y.isNaN then nan
  else if !x.isFinite then
    if y.isFinite then infinity negative else nan
  else if !y.isFinite then ofMagnitude negative 0
  else if y.magnitude = 0 then
    if x.magnitude = 0 then nan else infinity negative
  else ofMagnitude negative (magnitudeOfUnits (x.units * unitsOfOne) y.units)

/-- The place of a number in the order: zero for both zeros, and larger numbers higher. -/
def rank (x : Binary64) : Int :=
  if x.isNegative then -(x.magnitude : Int) else x.magnitude

/-- Less than, as numbers. NaN compares with nothing. -/
def lt (x y : Binary64) : Bool :=
  !x.isNaN && !y.isNaN && x.rank < y.rank

def le (x y : Binary64) : Bool :=
  !x.isNaN && !y.isNaN && x.rank ≤ y.rank

/-- Equal as numbers: both zeros are one number, NaN equals nothing. -/
def eqNumber (x y : Binary64) : Bool :=
  !x.isNaN && !y.isNaN && x.rank == y.rank

/-- The nearest number between two bounds; NaN is left alone. -/
def clamp (x low high : Binary64) : Binary64 :=
  if x.lt low then low else if high.lt x then high else x

/-- The nearest whole number of a number that is not below zero, a half going up. NaN gives 0. -/
def roundHalfUp (x : Binary64) : Nat :=
  if x.isNaN then 0 else (2 * x.units + unitsOfOne) / (2 * unitsOfOne)

end Binary64

end ModelDepot
