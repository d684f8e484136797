import ModelDepot.Config.Load
import ModelDepot.Download.Batch
import ModelDepot.Failure
import ModelDepot.Transport.Connect

/-!
# The manager

A manager finds its backend once. Without one it stays usable: it says why it has none, and every
action that needs a backend fails with that.
-/

namespace ModelDepot

/-- A configuration, and the backend with its client or why there is none. -/
structure Manager where
  scene : Except TransportUnavailable (Scene Backend)
  config : Config

namespace Manager

def ofBackend (b : Backend) (config : Config) : Manager :=
  ⟨.ok (.fresh b), config⟩

def ofConnection (found : Connection) (config : Config) : Manager :=
  ⟨found.backend.map Scene.fresh, config⟩

/-- Searches for the backend that the configuration asks for. -/
def connect (w : Surroundings) (usual : List String) (config : Config) : Manager :=
  ofConnection (w.connect config.transport usual) config

/-- What loading the configuration is called when it fails. -/
def loading : String := "failed to load KC-Riff configuration"

def load (env : Environment) (file : String → FileContent) (w : Surroundings)
    (usual : List String) : Except ConfigError Manager :=
  (Config.load env file).map (connect w usual)

def isAvailable (m : Manager) : Bool :=
  m.scene.isOk

def unavailable? (m : Manager) : Option TransportUnavailable :=
  match m.scene with
  | .ok _ => none
  | .error u => some u

def pollerConfig (m : Manager) : PollerConfig :=
  m.config.downloads.poller

def act {α : Type} (m : Manager) (f : Scene Backend → Except DepotError α × Scene Backend) :
    Except DepotError α × Manager :=
  match m.scene with
  | .error u => (.error (.unavailable u), m)
  | .ok scene =>
    let (result, scene) := f scene
    (result, { m with scene := .ok scene })

def request {α : Type} (m : Manager) (d : Dialogue (Except ClientError α)) :
    Except DepotError α × Manager :=
  m.act fun scene =>
    let (result, scene) := scene.hold d
    (result.mapError .client, scene)

def refreshModels (m : Manager) : Except DepotError (List Model) × Manager :=
  m.act fun scene =>
    let (result, scene) := scene.holdClient scene.client.listModels
    (result.mapError .client, scene)

def removeModel (m : Manager) (model : String) : Except DepotError Acknowledgement × Manager :=
  m.request (Client.removeModel model)

def checkForUpdates (m : Manager) : Except DepotError UpdateInfo × Manager :=
  m.request Client.checkForUpdates

def applyUpdate (m : Manager) : Except DepotError Acknowledgement × Manager :=
  m.request Client.applyUpdate

def healthCheck (m : Manager) : Except DepotError HealthStatus × Manager :=
  m.request Client.healthCheck

def isHealthy (m : Manager) : Bool × Manager :=
  let (result, m) := m.healthCheck
  (match result with
    | .ok health => health.isHealthy
    | .error _ => false, m)

def recommended (m : Manager) : List Model :=
  match m.scene with
  | .ok scene => scene.client.recommended
  | .error _ => []

def downloaded (m : Manager) : List Model :=
  match m.scene with
  | .ok scene => scene.client.downloaded
  | .error _ => []

/-- A poller that has come to its end, and what it told on the way. -/
structure Downloaded where
  poller : Poller
  told : List DownloadEvent

def download (m : Manager) (model : String) (stop : Scene.StopPoint) :
    Except DepotError Downloaded × Manager :=
  m.act fun scene =>
    let a := scene.run (.new model m.pollerConfig) stop
    (.ok ⟨a.poller, a.told⟩, a.scene)

/-- A batch that has come to its end, and what it told on the way. -/
structure BatchDownloaded where
  members : List String
  batch : Batch
  told : List BatchEvent

def downloadBatch (m : Manager) (selection : Batch.Selection) :
    Except DepotError BatchDownloaded × Manager :=
  m.act fun scene =>
    let (plan, scene) := scene.holdClient (Batch.plan scene.client selection)
    match plan with
    | .error e => (.error (.batch e), scene)
    | .ok members =>
      let (scene, batch) := Batch.start scene members m.pollerConfig
      let a := Batch.run scene batch
      (.ok ⟨members, a.batch, a.told⟩, a.scene)

end Manager

end ModelDepot
