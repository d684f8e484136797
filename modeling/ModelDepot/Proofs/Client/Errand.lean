import ModelDepot.Download.Batch

/-! # What is asked of a client

An errand is one of the seven operations, a view of the listing that is kept, or the plan of a
batch. It makes one call at most. Its first half ends with what its reply makes of the client, its
second half gives the answer; between the halves others may have their turn.
-/

namespace ModelDepot

inductive View where
  | cached
  | recommended
  | downloaded

def Client.view (client : Client) : View → List Model
  | .cached => client.snapshot
  | .recommended => client.recommended
  | .downloaded => client.downloaded

def View.shows : View → Model → Bool
  | cached, _ => true
  | recommended, m => m.recommended
  | downloaded, m => m.downloaded

theorem Client.view_eq_filter (client : Client) (v : View) :
    client.view v = client.snapshot.filter v.shows := by
  cases v with
  | cached => exact (List.filter_eq_self.2 fun _ _ => rfl).symm
  | recommended | downloaded => rfl

inductive Errand where
  | listModels
  | startDownload (model : String)
  | downloadStatus (model : String)
  | removeModel (model : String)
  | checkForUpdates
  | applyUpdate
  | healthCheck
  | view (v : View)
  | plan (selection : Batch.Selection)

inductive Answer where
  | models (listing : Except ClientError (List Model))
  | acknowledgement (result : Except ClientError Acknowledgement)
  | status (result : Except ClientError DownloadStatus)
  | updates (result : Except ClientError UpdateInfo)
  | health (result : Except ClientError HealthStatus)
  | view (models : List Model)
  | members (result : Except BatchError (List String))

namespace Errand

def call? : Errand → Option Call
  | listModels | plan .recommended => some .listModels
  | startDownload model => some (.startDownload model)
  | downloadStatus model => some (.downloadStatus model)
  | removeModel model => some (.removeModel model)
  | checkForUpdates => some .checkForUpdates
  | applyUpdate => some .applyUpdate
  | healthCheck => some .healthCheck
  | view _ | plan (.names _) => none

def lists : Errand → Bool
  | listModels | plan .recommended => true
  | _ => false

def dialogue (client : Client) : Errand → Dialogue (Answer × Client)
  | listModels => do
    let (listing, client) ← client.listModels
    return (.models listing, client)
  | startDownload model => do return (.acknowledgement (← Client.startDownload model), client)
  | downloadStatus model => do return (.status (← Client.downloadStatus model), client)
  | removeModel model => do return (.acknowledgement (← Client.removeModel model), client)
  | checkForUpdates => do return (.updates (← Client.checkForUpdates), client)
  | applyUpdate => do return (.acknowledgement (← Client.applyUpdate), client)
  | healthCheck => do return (.health (← Client.healthCheck), client)
  | view v => return (.view (client.view v), client)
  | plan selection => do
    let (members, client) ← Batch.plan client selection
    return (.members members, client)

/-- The first half of an errand: what is left to be done with the client as it is then, and the
client that the first half leaves. -/
def request (client : Client) : Errand → Dialogue ((Client → Answer) × Client)
  | listModels => do
    let (listing, client) ← client.listModels
    return (fun _ => .models listing, client)
  | plan .recommended => do
    let (listing, client) ← client.listModels
    return (fun _ => .members (Batch.choose listing), client)
  | plan (.names names) => return (fun _ => .members (Batch.settle names), client)
  | view v => return (fun client => .view (client.view v), client)
  | e => do
    let (answer, client) ← e.dialogue client
    return (fun _ => answer, client)

theorem dialogue_eq (e : Errand) (client : Client) :
    e.dialogue client = do
      let (finish, client) ← e.request client
      return (finish client, client) := by
  cases e with
  | plan selection => cases selection <;> rfl
  | _ => rfl

/-- What an errand that makes a call answers, given the reply to it. -/
inductive Answers (reply : Reply) : Errand → Answer → Prop where
  | listModels : Answers reply .listModels (.models (Client.accept Payload.models reply))
  | startDownload (model) : Answers reply (.startDownload model)
      (.acknowledgement (Client.accept Client.decodeStart reply))
  | downloadStatus (model) : Answers reply (.downloadStatus model)
      (.status (Client.accept (Payload.downloadStatus model) reply))
  | removeModel (model) : Answers reply (.removeModel model)
      (.acknowledgement (Client.accept (Payload.acknowledgement "remove acknowledgement") reply))
  | checkForUpdates : Answers reply .checkForUpdates
      (.updates (Client.accept Payload.updateInfo reply))
  | applyUpdate : Answers reply .applyUpdate
      (.acknowledgement (Client.accept (Payload.acknowledgement "update acknowledgement") reply))
  | healthCheck : Answers reply .healthCheck (.health (Client.accept Payload.health reply))
  | plan : Answers reply (.plan .recommended)
      (.members (Batch.choose (Client.accept Payload.models reply)))

/-- What an errand that makes no call answers, given the client. -/
inductive Looks (client : Client) : Errand → Answer → Prop where
  | view (v) : Looks client (.view v) (.view (client.snapshot.filter v.shows))
  | plan (names) : Looks client (.plan (.names names)) (.members (Batch.settle names))

/-- What a reply makes of the client: only a listing is kept. -/
def keep (e : Errand) (reply : Reply) (client : Client) : Client :=
  if e.lists then client.remember (Client.accept Payload.models reply) else client

/-- The first half of an errand, be it one that makes a call or not. -/
inductive Begins (e : Errand) : Prop where
  | looks {finish : Client → Answer} : e.call? = none → e.lists = false →
      (∀ client, e.request client = .done (finish, client)) →
      (∀ client, e.Looks client (finish client)) → Begins e
  | calls {c : Call} {answer : Reply → Answer} : e.call? = some c →
      (∀ client, e.request client =
        .call c fun reply => .done (fun _ => answer reply, e.keep reply client)) →
      (∀ reply, e.Answers reply (answer reply)) → Begins e

theorem begins (e : Errand) : e.Begins := by
  cases e with
  | listModels => exact .calls rfl (fun _ => rfl) fun _ => .listModels
  | startDownload model => exact .calls rfl (fun _ => rfl) fun _ => .startDownload model
  | downloadStatus model => exact .calls rfl (fun _ => rfl) fun _ => .downloadStatus model
  | removeModel model => exact .calls rfl (fun _ => rfl) fun _ => .removeModel model
  | checkForUpdates => exact .calls rfl (fun _ => rfl) fun _ => .checkForUpdates
  | applyUpdate => exact .calls rfl (fun _ => rfl) fun _ => .applyUpdate
  | healthCheck => exact .calls rfl (fun _ => rfl) fun _ => .healthCheck
  | view v =>
      refine .looks rfl rfl (fun _ => rfl) fun client => ?_
      rw [Client.view_eq_filter]
      exact .view v
  | plan selection =>
      cases selection with
      | names names => exact .looks rfl rfl (fun _ => rfl) fun _ => .plan names
      | recommended => exact .calls rfl (fun _ => rfl) fun _ => .plan

end Errand

end ModelDepot
