import ModelDepot.Model
import ModelDepot.Text.Basic

/-!
# Readings of a download and of the backend

What the backend says when it is asked: how far a download is, whether the backend is healthy,
whether there is an update, and that a command has arrived.
-/

namespace ModelDepot

inductive DownloadState where
  | pending
  | downloading
  | completed
  | failed
  | timeout
  deriving DecidableEq, Repr

namespace DownloadState

/-- The one word a state is written with. -/
def word : DownloadState → String
  | pending => "pending"
  | downloading => "downloading"
  | completed => "completed"
  | failed => "failed"
  | timeout => "timeout"

def all : List DownloadState :=
  [pending, downloading, completed, failed, timeout]

/-- The words backends use for a state, its own word first. -/
def spellings : DownloadState → List String
  | pending => ["pending", "not_started", "queued"]
  | downloading => ["downloading", "in_progress"]
  | completed => ["completed", "complete", "done"]
  | failed => ["failed", "error", "cancelled"]
  | timeout => ["timeout", "timed_out"]

/-- The state a backend's word means, whatever its case and the blanks around it. -/
def ofWord? (s : String) : Option DownloadState :=
  let s := (Text.trim s).toLower
  all.find? fun state => state.spellings.contains s

def read : Json.Reader DownloadState :=
  .variants (all.map fun state => (state.word, .bare state))

end DownloadState

/-- One reading of a download. -/
structure DownloadStatus where
  modelName : String
  /-- Percentage done. Backends may move it back. -/
  progress : Binary64
  completed : Bool
  state : DownloadState
  /-- None on a status decoded from a reply, where an error is a failure of the call. -/
  error : Option String
  downloadedBytes : Option UInt64
  totalBytes : Option UInt64
  deriving DecidableEq, Repr

namespace DownloadStatus

def toJson (s : DownloadStatus) : Json :=
  .object <|
    [("model_name", .string s.modelName), ("progress", .float s.progress),
      ("completed", .bool s.completed), ("state", .string s.state.word)] ++
    Json.optMember "error" (s.error.map .string) ++
    Json.optMember "downloaded_bytes" (s.downloadedBytes.map fun n => .nat n.toNat) ++
    Json.optMember "total_bytes" (s.totalBytes.map fun n => .nat n.toNat)

open Json Json.Reader Json.Field in
def read : Json.Reader DownloadStatus :=
  record [String, Binary64, Bool, DownloadState, Option String, Option UInt64, Option UInt64]
    "struct DownloadStatus"
    (required "model_name" string, required "progress" float, required "completed" bool,
      required "state" DownloadState.read, lenient "error" string,
      lenient "downloaded_bytes" u64, lenient "total_bytes" u64, ())
    fun (modelName, progress, completed, state, error, downloadedBytes, totalBytes, ()) =>
      { modelName, progress, completed, state, error, downloadedBytes, totalBytes }

end DownloadStatus

/-- The backend's verdict on itself. -/
inductive HealthState where
  | healthy
  | unhealthy
  deriving DecidableEq, Repr

namespace HealthState

def word : HealthState → String
  | healthy => "healthy"
  | unhealthy => "unhealthy"

def read : Json.Reader HealthState :=
  .variants ([healthy, unhealthy].map fun state => (state.word, .bare state))

end HealthState

structure HealthStatus where
  state : HealthState
  version : Option String
  name : Option String
  deriving DecidableEq, Repr

namespace HealthStatus

def isHealthy (h : HealthStatus) : Bool :=
  h.state == .healthy

def toJson (h : HealthStatus) : Json :=
  .object <|
    [("state", .string h.state.word), ("version", .optString h.version)] ++
    Json.optMember "name" (h.name.map .string)

open Json Json.Reader Json.Field in
def read : Json.Reader HealthStatus :=
  record [HealthState, Option String, Option String] "struct HealthStatus"
    (required "state" HealthState.read, optional "version" string, lenient "name" string, ())
    fun (state, version, name, ()) => { state, version, name }

end HealthStatus

structure UpdateInfo where
  available : Bool
  currentVersion : Option String
  newVersion : Option String
  releaseNotes : Option String
  downloadUrl : Option String
  deriving DecidableEq, Repr

namespace UpdateInfo

def toJson (u : UpdateInfo) : Json :=
  .object
    [("available", .bool u.available), ("current_version", .optString u.currentVersion),
      ("new_version", .optString u.newVersion), ("release_notes", .optString u.releaseNotes),
      ("download_url", .optString u.downloadUrl)]

open Json Json.Reader Json.Field in
def read : Json.Reader UpdateInfo :=
  record [Bool, Option String, Option String, Option String, Option String] "struct UpdateInfo"
    (required "available" bool, optional "current_version" string,
      optional "new_version" string, optional "release_notes" string,
      optional "download_url" string, ())
    fun (available, currentVersion, newVersion, releaseNotes, downloadUrl, ()) =>
      { available, currentVersion, newVersion, releaseNotes, downloadUrl }

end UpdateInfo

/-- The answer to a command that only says that it has arrived. -/
structure Acknowledgement where
  status : Option String
  message : Option String
  model : Option String
  fromVersion : Option String
  toVersion : Option String
  deriving DecidableEq, Repr

namespace Acknowledgement

def toJson (a : Acknowledgement) : Json :=
  .object
    [("status", .optString a.status), ("message", .optString a.message),
      ("model", .optString a.model), ("from_version", .optString a.fromVersion),
      ("to_version", .optString a.toVersion)]

open Json Json.Reader Json.Field in
def read : Json.Reader Acknowledgement :=
  record [Option String, Option String, Option String, Option String, Option String]
    "struct Acknowledgement"
    (optional "status" string, optional "message" string, optional "model" string,
      optional "from_version" string, optional "to_version" string, ())
    fun (status, message, model, fromVersion, toVersion, ()) =>
      { status, message, model, fromVersion, toVersion }

end Acknowledgement

end ModelDepot
