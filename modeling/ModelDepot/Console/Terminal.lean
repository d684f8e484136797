import ModelDepot.Console.Paint
import ModelDepot.Download.Batch
import ModelDepot.Failure
import ModelDepot.Transport.Connect

/-!
# Programs at a terminal

What a program does once it has a backend: it prints lines, asks the backend, and waits for
downloads. The same program runs at a real terminal and in memory; in memory what it prints is
kept, and the user's signal to stop comes when a given state of the backend is reached.
-/

namespace ModelDepot.Console

/-- What the owner of a batch gets: what the batch tells, and the report it leaves. -/
structure BatchHeard where
  told : List BatchEvent
  report : BatchReport

/-- What a program at a terminal can do. -/
class Terminal (m : Type → Type) where
  /-- Prints a line. -/
  print : String → m Unit
  /-- Prints a line on the stream for errors. -/
  complain : String → m Unit
  /-- Holds a dialogue with the backend, on behalf of the client. -/
  talk {α : Type} : (Client → Dialogue (α × Client)) → m α
  /-- Brings the download of a model to its end, and gives what it tells. -/
  download : String → m (List DownloadEvent)
  /-- Brings the downloads of the members of a batch to their end; what is printed at an event is
  given with it. -/
  downloadAll : List String → (BatchEvent → List String) → m BatchHeard

abbrev Program (m : Type → Type) (α : Type) := ExceptT DepotError m α

section

variable {m : Type → Type} [Monad m] [Terminal m]

def print (lines : List String) : Program m Unit :=
  lines.forM fun line => (Terminal.print line : m Unit)

def complain (line : String) : Program m Unit :=
  (Terminal.complain line : m Unit)

/-- Makes a request on behalf of the client; its failure is that of the program. -/
def listing : Program m (List Model) := do
  match ← (Terminal.talk Client.listModels : m _) with
  | .ok models => return models
  | .error e => throw (.client e)

/-- Makes a request; its failure is that of the program. -/
def request {α : Type} (d : Dialogue (Except ClientError α)) : Program m α := do
  match ← (Terminal.talk fun client => d >>= fun result => pure (result, client) : m _) with
  | .ok a => return a
  | .error e => throw (.client e)

end

/-! ## In memory -/

/-- What the user says when the program is to stop. -/
def stopping (coloured : Bool) : List String :=
  ["", paint coloured .yellow "Stopping..."]

/-- A terminal in memory. -/
structure Session where
  scene : Scene Backend
  /-- The settings of every poller. -/
  poller : PollerConfig
  /-- The user asks to stop as soon as this holds of the backend and every download rests. -/
  signal : Backend → Bool
  /-- The lines printed so far. -/
  output : List String
  /-- The lines printed on the stream for errors. -/
  errors : List String

def isNapping (p : Poller) : Bool :=
  p.stage matches .napping _

namespace Session

def fresh (b : Backend) (poller : PollerConfig) (signal : Backend → Bool) : Session :=
  ⟨.fresh b, poller, signal, [], []⟩

def print (s : Session) (lines : List String) : Session :=
  { s with output := s.output ++ lines }

def complain (s : Session) (lines : List String) : Session :=
  { s with errors := s.errors ++ lines }

/-- The user asks to stop, if that is due once every download that is left rests. -/
def isAsked (s : Session) (resting : List Poller) (b : Backend) : Bool :=
  resting.any isNapping && s.signal b

/-- The user's signal, once it is taken. -/
def heed (s : Session) (isAsked : Bool) : Session :=
  s.complain (if isAsked then stopping false else [])

/-- The poller of a model at its end, and whether the user asked to stop in its first nap. -/
def lastOf (s : Session) (model : String) : Scene.Advance Backend × Bool :=
  let a := s.scene.advanceUntil isNapping Scene.fuel (Poller.new model s.poller).requestRun
  let isAsked := s.isAsked [a.poller] a.scene.transport
  let last := a.scene.run (if isAsked then a.poller.stop else a.poller) .never
  ({ last with told := a.told ++ last.told }, isAsked)

def download (s : Session) (model : String) : List DownloadEvent × Session :=
  let (last, isAsked) := s.lastOf model
  (last.told, { s with scene := last.scene }.heed isAsked)

/-- The batch of some members at its end, and whether the user asked to stop when all that were left
of them were in their first nap. -/
def lastOfAll (s : Session) (members : List String) : Batch.Advance Backend × Bool :=
  let (scene, batch) := Batch.start s.scene members s.poller
  let a := Batch.advanceAll isNapping scene batch
  if s.isAsked a.batch.pollers a.scene.transport then
    let last := Batch.run a.scene a.batch.stop
    ({ last with told := a.told ++ last.told }, true)
  else (Batch.run scene batch, false)

def downloadAll (s : Session) (members : List String) (lines : BatchEvent → List String) :
    BatchHeard × Session :=
  let (last, isAsked) := s.lastOfAll members
  (⟨last.told, last.batch.report⟩,
    ({ s with scene := last.scene }.print (last.told.flatMap lines)).heed isAsked)

instance : Terminal (StateM Session) where
  print line := modify (Session.print · [line])
  complain line := modify (Session.complain · [line])
  talk d := fun s =>
    let (a, scene) := s.scene.holdClient (d s.scene.client)
    (a, { s with scene })
  download model := fun s => s.download model
  downloadAll members lines := fun s => s.downloadAll members lines

end Session

end ModelDepot.Console
