import ModelDepot.Error
import ModelDepot.Status

/-!
# How a download ends

A download completes, fails, runs out of time or is cancelled. Cancellation is neither a success
nor a failure.
-/

namespace ModelDepot

inductive FailureReason where
  /-- The request to start it failed. -/
  | rejected (message : String)
  /-- The backend reported an error while it was running. -/
  | remote (message : String)
  /-- Another download holds the name. -/
  | alreadyActive
  deriving DecidableEq, Repr

namespace FailureReason

def message : FailureReason → String
  | rejected m => "download request rejected (" ++ m ++ ")"
  | remote m => m
  | alreadyActive => "a download for this model is already running"

def toJson : FailureReason → Json
  | rejected m => .object [("Rejected", .string m)]
  | remote m => .object [("Remote", .string m)]
  | alreadyActive => .string "AlreadyActive"

open Json Json.Reader in
def read : Json.Reader FailureReason :=
  variants
    [("Rejected", .holding fun v => (string v).map rejected),
      ("Remote", .holding fun v => (string v).map remote),
      ("AlreadyActive", .bare alreadyActive)]

end FailureReason

inductive DownloadOutcome where
  | completed (status : DownloadStatus)
  | failed (reason : FailureReason)
  | timedOut (after : Duration) (lastProgress : Option Binary64)
  | cancelled
  deriving DecidableEq, Repr

namespace DownloadOutcome

def isSuccess : DownloadOutcome → Bool
  | completed _ => true
  | _ => false

def isFailure : DownloadOutcome → Bool
  | failed _ | timedOut _ _ => true
  | _ => false

def isCancelled : DownloadOutcome → Bool
  | cancelled => true
  | _ => false

def text : DownloadOutcome → String
  | completed _ => "completed"
  | failed reason => "failed: " ++ reason.message
  | timedOut after _ => "timed out after " ++ decimalText after.seconds ++ "s"
  | cancelled => "cancelled"

def toJson : DownloadOutcome → Json
  | completed status => .object [("Completed", status.toJson)]
  | failed reason => .object [("Failed", reason.toJson)]
  | timedOut after last =>
    .object [("TimedOut",
      .object [("after", after.toJson), ("last_progress", last.elim .null .float)])]
  | cancelled => .string "Cancelled"

open Json Json.Reader Json.Field in
def read : Json.Reader DownloadOutcome :=
  variants
    [("Completed", .holding fun v => (DownloadStatus.read v).map completed),
      ("Failed", .holding fun v => (FailureReason.read v).map failed),
      ("TimedOut", .ofFields [Duration, Option Binary64]
        (required "after" Duration.read, optional "last_progress" float, ())
        fun (after, last, ()) => timedOut after last),
      ("Cancelled", .bare cancelled)]

end DownloadOutcome

end ModelDepot
