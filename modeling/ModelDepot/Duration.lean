import ModelDepot.Json.Shape

/-!
# Durations

Spans of time in nanoseconds, up to the longest that 64 bits of seconds can say.
-/

namespace ModelDepot

def nanosPerSecond : Nat := 1000000000

/-- A span of time. Its whole seconds fit 64 bits. -/
structure Duration where
  nanos : Nat
  nanos_lt : nanos < UInt64.size * nanosPerSecond
  deriving DecidableEq, Repr

namespace Duration

def seconds (d : Duration) : Nat :=
  d.nanos / nanosPerSecond

def subsecNanos (d : Duration) : Nat :=
  d.nanos % nanosPerSecond

/-- The span of so many nanoseconds, if there is one so long. -/
def ofNanos? (n : Nat) : Option Duration :=
  if h : n < UInt64.size * nanosPerSecond then some ⟨n, h⟩ else none

def ofSeconds (s : UInt64) : Duration :=
  ⟨s.toNat * nanosPerSecond,
    (Nat.mul_lt_mul_right (by decide)).2 s.toNat_lt⟩

def ofMillis (ms : UInt64) : Duration :=
  ⟨ms.toNat * 1000000, by have := ms.toNat_lt; simp only [UInt64.size, nanosPerSecond]; omega⟩

/-- A number of units with a fraction of so many digits, zeros at its end left out. -/
def unitText (n perUnit places : Nat) : String :=
  let fraction := decimalText (n % perUnit)
  let padded := List.replicate (places - fraction.length) '0' ++ fraction.toList
  let kept := (padded.reverse.dropWhile (· == '0')).reverse
  decimalText (n / perUnit) ++
    (if n % perUnit = 0 then "" else "." ++ String.ofList kept)

/-- A duration in the largest of seconds, milliseconds, microseconds and nanoseconds of which it
holds at least one. -/
def text (d : Duration) : String :=
  if nanosPerSecond ≤ d.nanos then unitText d.nanos nanosPerSecond 9 ++ "s"
  else if 1000000 ≤ d.nanos then unitText d.nanos 1000000 6 ++ "ms"
  else if 1000 ≤ d.nanos then unitText d.nanos 1000 3 ++ "µs"
  else decimalText d.nanos ++ "ns"

/-- The JSON form: whole seconds and the nanoseconds beyond them. -/
def toJson (d : Duration) : Json :=
  .object [("secs", .nat d.seconds), ("nanos", .nat d.subsecNanos)]

/-- A duration of seconds and further nanoseconds, which may make up seconds of their own. -/
def ofParts (secs : UInt64) (nanos : UInt32) : Except Json.ShapeError Duration :=
  (ofNanos? (secs.toNat * nanosPerSecond + nanos.toNat)).elim (.error .durationOverflow) .ok

/-- The names of the two parts; an object with any other is refused. -/
def partNames : List String := ["secs", "nanos"]

/-- The parts among members, in the order they stand in. -/
def readParts : Option UInt64 → Option UInt32 → List (String × Json) →
    Except Json.ShapeError Duration
  | secs, nanos, [] => do
    let some secs := secs | .error (.missingField "secs")
    let some nanos := nanos | .error (.missingField "nanos")
    ofParts secs nanos
  | secs, nanos, (key, v) :: rest =>
    if key = "secs" then do
      if secs.isSome then .error (.duplicateField "secs")
      readParts (some (← Json.Reader.u64 v)) nanos rest
    else if key = "nanos" then do
      if nanos.isSome then .error (.duplicateField "nanos")
      readParts secs (some (← Json.Reader.u32 v)) rest
    else .error (.unknownField key partNames)

def read : Json.Reader Duration
  | .object members => readParts none none members
  | .array [] => .error (.invalidLength 0 "struct Duration")
  | .array (s :: items) => do
    let secs ← Json.Reader.u64 s
    match items with
    | [] => .error (.invalidLength 1 "struct Duration")
    | n :: more => do
      let nanos ← Json.Reader.u32 n
      let d ← ofParts secs nanos
      if more.isEmpty then return d
      else .error (.invalidLength (items.length + 1) "fewer elements in array")
  | v => Json.wrongType v "struct Duration"

end Duration

end ModelDepot
