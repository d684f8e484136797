import ModelDepot.Console.Paint
import ModelDepot.Download.Report
import ModelDepot.Payload

/-!
# What the command line shows

Sizes, counts and percentages in words, the row of a model, and how downloads ended.
-/

namespace ModelDepot.Console

def percent (progress : Binary64) : Nat :=
  (Payload.clampPercent progress).roundHalfUp

/-- The units of sizes beyond bytes; each is a thousand of the one before. -/
def sizeUnits : List String := ["KB", "MB", "GB"]

/-- A value in the first unit that keeps it below a thousand, or in the last. -/
def scaledSize (value : Binary64) : String → List String → String
  | unit, next :: more =>
    if (Binary64.ofNat 1000).le value then scaledSize (value.div (.ofNat 1000)) next more
    else value.fixedText 1 ++ " " ++ unit
  | unit, [] => value.fixedText 1 ++ " " ++ unit

/-- A count of bytes; below a thousand it is exact. -/
def size (bytes : UInt64) : String :=
  let value := Binary64.ofNat bytes.toNat
  if (Binary64.ofNat 1000).le value then scaledSize value "B" sizeUnits
  else decimalText bytes.toNat ++ " B"

/-- A count of parameters, in millions or billions. -/
def parameters (count : UInt64) : String :=
  let n := count.toNat
  if n = 0 then "-"
  else if 1000000000 ≤ n then ((Binary64.ofNat n).div (.ofNat 1000000000)).fixedText 1 ++ "B"
  else ((Binary64.ofNat n).div (.ofNat 1000000)).fixedText 0 ++ "M"

def modelRow (coloured : Bool) (m : Model) : String :=
  let flags :=
    (if m.downloaded then [paint coloured .green "downloaded"] else []) ++
    (if m.recommended then [paint coloured .yellow "recommended"] else [])
  paintPadded coloured .cyan 24 m.name ++ " " ++ padStart 9 (size m.sizeBytes) ++ " " ++
    padStart 7 (parameters m.parameterCount) ++ "  " ++ " ".intercalate flags

def outcomeLabel (coloured : Bool) : DownloadOutcome → String
  | .completed _ => paint coloured .green "✅ done"
  | .cancelled => paint coloured .yellow "⏹ cancelled"
  | other => paint coloured .red ("❌ " ++ other.text)

structure Bar where
  message : String
  position : Nat
  length : Nat
  finished : Bool
  deriving DecidableEq, Repr

/-- The text with eight blanks for every tab: a bar stands in one line of known width. -/
def expandTabs (s : String) : String :=
  String.ofList (s.toList.flatMap fun c => if c = '\t' then List.replicate 8 ' ' else [c])

/-- A bar at its end: full, and with the outcome behind its message. -/
def Bar.finish (b : Bar) (coloured : Bool) (outcome : DownloadOutcome) : Bar :=
  { b with
    message := expandTabs (b.message ++ " " ++ outcomeLabel coloured outcome)
    position := b.length
    finished := true }

/-- The counts of a report, and a line for every member that failed. -/
def summary (coloured : Bool) (r : BatchReport) : String :=
  let counted (colour : Colour) (names : List String) : String :=
    paint coloured colour (decimalText names.length)
  let head := counted .green r.succeeded ++ " succeeded, " ++ counted .red r.failed ++
    " failed, " ++ counted .yellow r.cancelled ++ " cancelled"
  let failures := (r.outcomes.filter fun m => m.outcome.isFailure).map fun m =>
    "  " ++ paint coloured .red m.model ++ " " ++ m.outcome.text
  "\n".intercalate (head :: failures)

end ModelDepot.Console
