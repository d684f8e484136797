/-!
# Capabilities and calls

The seven operations every backend offers, how each is reached natively and over HTTP, and the
calls that ask for them.
-/

namespace ModelDepot

/-- One of the operations every backend offers. -/
inductive Capability where
  | listModels
  | startDownload
  | downloadStatus
  | removeModel
  | checkForUpdates
  | applyUpdate
  | healthCheck
  deriving DecidableEq, Repr

namespace Capability

def all : List Capability :=
  [listModels, startDownload, downloadStatus, removeModel, checkForUpdates, applyUpdate,
    healthCheck]

def name : Capability → String
  | listModels => "list-models"
  | startDownload => "start-download"
  | downloadStatus => "get-download-status"
  | removeModel => "remove-model"
  | checkForUpdates => "check-for-updates"
  | applyUpdate => "apply-update"
  | healthCheck => "health-check"

def entryPoint : Capability → String
  | listModels => "GetModels"
  | startDownload => "StartModelDownload"
  | downloadStatus => "GetDownloadStatus"
  | removeModel => "RemoveModel"
  | checkForUpdates => "CheckForUpdates"
  | applyUpdate => "ApplyUpdate"
  | healthCheck => "HealthCheck"

/-- The spellings some libraries use instead. -/
def otherEntryPoints : Capability → List String
  | startDownload => ["DownloadModel"]
  | checkForUpdates => ["CheckForUpdatesC"]
  | healthCheck => ["GetHealthCheck"]
  | _ => []

/-- Every spelling of an entry point, in order of preference. -/
def entryPoints (c : Capability) : List String :=
  c.entryPoint :: c.otherEntryPoints

/-- The path of the capability below the address of an HTTP service. -/
def route : Capability → String
  | listModels => "api/models"
  | startDownload => "api/models/download"
  | downloadStatus => "api/models/status"
  | removeModel => "api/models/remove"
  | checkForUpdates => "api/updates"
  | applyUpdate => "api/updates/apply"
  | healthCheck => "api/health"

/-- The place in the order of all capabilities. -/
def index (c : Capability) : Nat :=
  all.idxOf c

end Capability

/-- A request for a capability, with the model it is about. -/
inductive Call where
  | listModels
  | startDownload (model : String)
  | downloadStatus (model : String)
  | removeModel (model : String)
  | checkForUpdates
  | applyUpdate
  | healthCheck
  deriving DecidableEq, Repr

namespace Call

def capability : Call → Capability
  | listModels => .listModels
  | startDownload _ => .startDownload
  | downloadStatus _ => .downloadStatus
  | removeModel _ => .removeModel
  | checkForUpdates => .checkForUpdates
  | applyUpdate => .applyUpdate
  | healthCheck => .healthCheck

def model? : Call → Option String
  | startDownload model | downloadStatus model | removeModel model => some model
  | _ => none

end Call

end ModelDepot
