import ModelDepot.Console.Program
import ModelDepot.Manager

/-!
# Downloading what is recommended

A program that takes no words: it shows what is recommended, downloads all of it, and shows how
that goes, line by line.
-/

namespace ModelDepot.Console

/-- A percentage in five places, one of them behind the point. -/
def percentText (x : Binary64) : String :=
  padStart 5 (x.fixedText 1) ++ "%"

/-- A model by its name and size in billions of bytes. -/
def recommendedLine (m : Model) : String :=
  "  * " ++ m.name ++ " (" ++
    ((Binary64.ofNat m.sizeBytes.toNat).div (.ofNat 1000000000)).fixedText 1 ++ " GB)"

def eventLine : BatchEvent → String
  | .progress model progress overall =>
    padEnd 20 model ++ " " ++ percentText progress ++ "   overall " ++ percentText overall
  | .memberFinished model outcome => model ++ ": " ++ outcome.text
  | .finished report =>
    "done: " ++ decimalText report.succeeded.length ++ " succeeded, " ++
      decimalText report.failed.length ++ " failed"

def recommended {m : Type → Type} [Monad m] [Terminal m] : Program m Unit := do
  let models ← listing
  print [decimalText models.length ++ " model(s) known to the backend"]
  print ((models.filter (·.recommended)).map recommendedLine)
  match ← plan .recommended with
  | .error e => throw (.batch e)
  | .ok members =>
    let _ ← (Terminal.downloadAll members fun event => [eventLine event] : m _)

/-- The end for want of a backend; that is no failure. -/
def recommendedUnavailable (u : TransportUnavailable) : Ending :=
  ⟨0, [], ["KC-Riff is not available: " ++ u.message]⟩

/-- The end after the downloads. How they went does not matter. -/
def recommendedEnding : Except DepotError Unit → Ending
  | .ok () => .silent 0
  | .error e => .ofFailure e.failure

def Setting.runRecommended (w : Setting) : Transcript :=
  match Config.load w.environment w.file with
  | .error e => .ofEnding (.ofFailure (e.failure.within Manager.loading)) []
  | .ok c =>
    let found := w.surroundings.connect c.transport w.usual
    match found.backend with
    | .error u => .ofEnding (recommendedUnavailable u) found.requests
    | .ok b =>
      let (result, s) := w.runOn c b recommended
      .ofSession s (recommendedEnding result)

end ModelDepot.Console
