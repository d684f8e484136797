import ModelDepot.Console.Arguments
import ModelDepot.Console.Render
import ModelDepot.Console.Terminal

/-!
# Commands

What each command does with the backend and what it shows. A command says whether it went well.
-/

namespace ModelDepot.Console

variable {m : Type → Type} [Monad m] [Terminal m]

def list (coloured recommended downloaded : Bool) : Program m Bool := do
  let all ← listing
  let chosen :=
    if recommended then all.filter (·.recommended)
    else if downloaded then all.filter (·.downloaded)
    else all
  if chosen.isEmpty then print [paint coloured .dim "No models"]
  print (chosen.map (modelRow coloured))
  return true

/-- The outcome that the events of a download tell. Without one it counts as cancelled. -/
def toldOutcome : List DownloadEvent → DownloadOutcome
  | [] => .cancelled
  | .progress _ _ :: rest => toldOutcome rest
  | .finished _ outcome :: _ => outcome

def download (coloured : Bool) (name : String) : Program m Bool := do
  print ["📥 Downloading " ++ paint coloured .cyan name]
  let told ← (Terminal.download name : m _)
  return (toldOutcome told).isSuccess

/-- The models that names ask for: the recommended ones if there is none. -/
def selection (names : List String) : Batch.Selection :=
  if names.isEmpty then .recommended else .names names

def plan (chosen : Batch.Selection) : Program m (Except BatchError (List String)) :=
  (Terminal.talk fun client => Batch.plan client chosen : m _)

/-- The report that the events of a batch tell. -/
def toldReport? : List BatchEvent → Option BatchReport
  | [] => none
  | .finished report :: _ => some report
  | _ :: rest => toldReport? rest

/-- Shows the report on a batch, if there is one among its events. Without it the one that is left
counts. -/
def conclude (coloured : Bool) (heard : BatchHeard) : Program m Bool := do
  match toldReport? heard.told with
  | some report =>
    print [summary coloured report]
    return report.isSuccess
  | none => return heard.report.isSuccess

def downloadPlanned (coloured : Bool) : Except BatchError (List String) → Program m Bool
  | .error .empty => do
    complain ("❌ " ++ paint coloured .red "No models selected")
    return false
  | .error e => throw (.batch e)
  | .ok members => do
    print ["📥 Downloading " ++ decimalText members.length ++ " model(s)"]
    conclude coloured (← (Terminal.downloadAll members fun _ => [] : m _))

def downloadAll (coloured : Bool) (names : List String) : Program m Bool := do
  downloadPlanned coloured (← plan (selection names))

def remove (coloured : Bool) (name : String) : Program m Bool := do
  let ack ← request (Client.removeModel name)
  let words := (ack.message.or ack.status).getD "removed"
  print ["🗑  " ++ paint coloured .cyan name ++ " " ++ words]
  return true

def updateLines (coloured : Bool) (u : UpdateInfo) : List String :=
  let unknown := "unknown"
  let current := u.currentVersion.getD unknown
  if u.available then
    ["⬆  Update available: " ++ current ++ " -> " ++
      paint coloured .cyan (u.newVersion.getD unknown)] ++
    (u.releaseNotes.map fun notes => "   " ++ notes).toList ++
    (u.downloadUrl.map fun url => "   " ++ paint coloured .dim url).toList
  else ["✅ KC-Riff " ++ paint coloured .green current ++ " is up to date"]

/-- Checks for an update, and applies it if there is one and that is wanted. -/
def updates (coloured apply : Bool) : Program m Bool := do
  let info ← request Client.checkForUpdates
  print (updateLines coloured info)
  if info.available && apply then
    let ack ← request Client.applyUpdate
    print ["🔄 " ++ paint coloured .green (ack.status.getD "updating") ++ " " ++
      ack.toVersion.getD ""]
  return true

def health (coloured : Bool) : Program m Bool := do
  let h ← request Client.healthCheck
  let verdict :=
    if h.isHealthy then "✅ " ++ paint coloured .green "healthy"
    else "❌ " ++ paint coloured .red "unhealthy"
  print [verdict ++ " (version " ++ h.version.getD "unknown" ++ ")"]
  return h.isHealthy

def Command.run (coloured : Bool) : Command → Program m Bool
  | .list recommended downloaded => Console.list coloured recommended downloaded
  | .download name => Console.download coloured name
  | .downloadAll names => Console.downloadAll coloured names
  | .remove name => Console.remove coloured name
  | .updates apply => Console.updates coloured apply
  | .health => Console.health coloured

end ModelDepot.Console
