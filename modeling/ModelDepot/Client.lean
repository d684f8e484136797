import ModelDepot.Download.Claims
import ModelDepot.Payload
import ModelDepot.Transport.Basic

/-!
# The client

Typed access to the seven operations. The client keeps the last listing that succeeded and knows
which models are being downloaded.
-/

namespace ModelDepot

/-- What a client remembers between calls. -/
structure Client where
  /-- The models of the last listing that succeeded. -/
  snapshot : List Model
  active : ActiveDownloads

namespace Client

def fresh : Client := ⟨[], .none⟩

/-- What a reply means to the client. -/
def accept {α : Type} (decode : String → Except ClientError α) :
    Reply → Except ClientError α
  | .ok payload => decode payload
  | .error e => .error (.request e)

def request {α : Type} (c : Call) (decode : String → Except ClientError α) :
    Dialogue (Except ClientError α) :=
  .call c fun reply => .done (accept decode reply)

def remember (client : Client) : Except ClientError (List Model) → Client
  | .ok models => { client with snapshot := models }
  | .error _ => client

/-- Lists the models; a listing that succeeds replaces the one that is kept. -/
def listModels (client : Client) : Dialogue (Except ClientError (List Model) × Client) :=
  .call .listModels fun reply =>
    let listing := accept Payload.models reply
    .done (listing, client.remember listing)

def decodeStart : String → Except ClientError Acknowledgement :=
  Payload.acknowledgement "download acknowledgement"

def startDownload (model : String) : Dialogue (Except ClientError Acknowledgement) :=
  request (.startDownload model) decodeStart

def downloadStatus (model : String) : Dialogue (Except ClientError DownloadStatus) :=
  request (.downloadStatus model) (Payload.downloadStatus model)

def removeModel (model : String) : Dialogue (Except ClientError Acknowledgement) :=
  request (.removeModel model) (Payload.acknowledgement "remove acknowledgement")

def checkForUpdates : Dialogue (Except ClientError UpdateInfo) :=
  request .checkForUpdates Payload.updateInfo

def applyUpdate : Dialogue (Except ClientError Acknowledgement) :=
  request .applyUpdate (Payload.acknowledgement "update acknowledgement")

def healthCheck : Dialogue (Except ClientError HealthStatus) :=
  request .healthCheck Payload.health

def recommended (client : Client) : List Model :=
  client.snapshot.filter (·.recommended)

def downloaded (client : Client) : List Model :=
  client.snapshot.filter (·.downloaded)

end Client

end ModelDepot
