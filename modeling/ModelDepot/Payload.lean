import ModelDepot.Json.Reader
import ModelDepot.Error
import ModelDepot.Status

/-!
# Decoding of replies

A reply is JSON text. An object whose `error` says something is an error of the backend, whatever
else it holds; any other reply must have the shape of the answer. Texts that are blank count as
left out, and some fields go by two names.
-/

namespace ModelDepot.Payload

/-- The error an object reports: its `error`, unless that is null or a blank text. An error that
is no text is told as compact JSON. -/
def remoteError (v : Json) : Option String :=
  match v.get? "error" with
  | none | some .null => none
  | some (.string s) => if Text.isBlankText s then none else some s
  | some other => some other.text

/-- A reply as a value of one shape. -/
def decode {α : Type} (entity : String) (read : Json.Reader α) (payload : String) :
    Except ClientError α :=
  let payload := Text.trim payload
  if payload.isEmpty then .error (.decode ⟨entity, "empty reply"⟩)
  else
    match Json.read payload with
    | .error message => .error (.decode ⟨entity, message⟩)
    | .ok v =>
      match remoteError v with
      | some message => .error (.remote message)
      | none =>
        match read v with
        | .ok a => .ok a
        | .error e => .error (.decode ⟨entity, e.message⟩)

/-! ## Models -/

open Json Json.Reader Json.Field in
/-- A model as backends list it: only the name is needed. -/
def readModel : Json.Reader Model :=
  record
    [String, String, UInt64, UInt64, Bool, Bool, Option (List String), Option String,
      Option String]
    "struct WireModel"
    (required "name" string, default "description" string "",
      (default "size_bytes" u64 0).alsoNamed "size",
      (default "parameter_count" u64 0).alsoNamed "parameters",
      (default "downloaded" bool false).alsoNamed "is_downloaded",
      (default "recommended" bool false).alsoNamed "kc_recommended",
      lenient "tags" (list string), lenient "category" string, lenient "version" string, ())
    fun (name, description, sizeBytes, parameterCount, downloaded, recommended, tags, category,
        version, ()) =>
      { name, description, sizeBytes, parameterCount, downloaded, recommended,
        tags := tags.getD [], category := Text.nonBlank category,
        version := Text.nonBlank version }

def wrappedFields : Json.Fields [List Model] :=
  (.required "models" (.list readModel), ())

/-- The models of a listing wrapped in an object under `models`. Here an array does not stand for
the object. -/
def readWrapped : Json → Option (List Model)
  | .object members => (wrappedFields.ofMembers members).toOption.map fun (models, ()) => models
  | _ => none

/-- A listing: the models themselves, or wrapped. Why either fails is not told. -/
def readListing : Json.Reader (List Model) := fun v =>
  ((Json.Reader.list readModel v).toOption.or (readWrapped v)).elim
    (.error (.noLayout "WireModelList")) .ok

/-- The models a backend lists. An empty reply means that there are none. -/
def models (payload : String) : Except ClientError (List Model) :=
  if Text.isBlankText payload then .ok []
  else decode "model list" readListing payload

/-! ## Status of a download -/

/-- A status as backends send it. -/
structure StatusReply where
  modelName : Option String
  progress : Binary64
  completed : Bool
  status : Option String
  downloadedBytes : Option UInt64
  totalBytes : Option UInt64

open Json Json.Reader Json.Field in
def readStatus : Json.Reader StatusReply :=
  record [Option String, Binary64, Bool, Option String, Option UInt64, Option UInt64]
    "struct WireStatus"
    ((lenient "model_name" string).alsoNamed "model", default "progress" float .zero,
      default "completed" bool false, lenient "status" string,
      lenient "downloaded_bytes" u64, lenient "total_bytes" u64, ())
    fun (modelName, progress, completed, status, downloadedBytes, totalBytes, ()) =>
      { modelName, progress, completed, status, downloadedBytes, totalBytes }

def statusEntity : String := "download status"

/-- The state a status stands for: the one it names, or else the one that its flag and progress
show. A name that no state goes by is refused. -/
def StatusReply.state (r : StatusReply) : Except ClientError DownloadState :=
  match Text.nonBlank r.status with
  | some s =>
    match DownloadState.ofWord? s with
    | some state => .ok state
    | none => .error (.decode ⟨statusEntity, "unknown status " ++ Text.quote (Text.trim s)⟩)
  | none =>
    if r.completed then .ok .completed
    else if Binary64.zero.lt r.progress then .ok .downloading
    else .ok .pending

/-- The bounds of a percentage. -/
def hundred : Binary64 := .ofNat 100

def clampPercent (x : Binary64) : Binary64 :=
  x.clamp .zero hundred

/-- A status of the download of `requested`, which names it where the reply does not. -/
def downloadStatus (requested payload : String) : Except ClientError DownloadStatus :=
  match decode statusEntity readStatus payload with
  | .error e => .error e
  | .ok r =>
    match r.state with
    | .error e => .error e
    | .ok state =>
      if !r.progress.isFinite then .error (.decode ⟨statusEntity, "progress is not a number"⟩)
      else
        .ok {
          modelName := (Text.nonBlank r.modelName).getD requested
          progress := clampPercent r.progress
          completed := r.completed
          state
          error := none
          downloadedBytes := r.downloadedBytes
          totalBytes := r.totalBytes }

/-! ## The other answers -/

def healthyWords : List String := ["healthy", "ok", "up"]

open Json Json.Reader Json.Field in
/-- A health check's answer; any word but the healthy ones means unhealthy. -/
def readHealth : Json.Reader HealthStatus :=
  record [String, Option String, Option String] "struct WireHealth"
    (required "status" string, lenient "version" string, lenient "name" string, ())
    fun (status, version, name, ()) =>
      { state := if healthyWords.contains (Text.trim status).toLower then .healthy else .unhealthy
        version := Text.nonBlank version
        name := Text.nonBlank name }

def health (payload : String) : Except ClientError HealthStatus :=
  decode "health status" readHealth payload

open Json Json.Reader Json.Field in
def readUpdate : Json.Reader UpdateInfo :=
  record [Bool, Option String, Option String, Option String, Option String] "struct WireUpdate"
    (default "available" bool false, lenient "current_version" string,
      (lenient "new_version" string).alsoNamed "latest_version",
      lenient "release_notes" string, lenient "download_url" string, ())
    fun (available, currentVersion, newVersion, releaseNotes, downloadUrl, ()) =>
      { available
        currentVersion := Text.nonBlank currentVersion
        newVersion := Text.nonBlank newVersion
        releaseNotes := Text.nonBlank releaseNotes
        downloadUrl := Text.nonBlank downloadUrl }

def updateInfo (payload : String) : Except ClientError UpdateInfo :=
  decode "update info" readUpdate payload

/-- An acknowledgement; `entity` says of what, for the error. -/
def acknowledgement (entity payload : String) : Except ClientError Acknowledgement :=
  decode entity Acknowledgement.read payload

end ModelDepot.Payload
