import ModelDepot.Download.Outcome

/-!
# Events and reports

What a download and a batch of downloads tell their listeners, and the final word on a batch: one
entry per member, in the order of the batch.
-/

namespace ModelDepot

inductive DownloadEvent where
  /-- A progress that was not told before. -/
  | progress (model : String) (progress : Binary64)
  /-- The last event. -/
  | finished (model : String) (outcome : DownloadOutcome)
  deriving DecidableEq, Repr

namespace DownloadEvent

def model : DownloadEvent → String
  | progress model _ | finished model _ => model

def toJson : DownloadEvent → Json
  | progress model p =>
    .object [("Progress", .object [("model", .string model), ("progress", .float p)])]
  | finished model outcome =>
    .object [("Finished", .object [("model", .string model), ("outcome", outcome.toJson)])]

open Json Json.Reader Json.Field in
def read : Json.Reader DownloadEvent :=
  variants
    [("Progress", .ofFields [String, Binary64]
        (required "model" string, required "progress" float, ())
        fun (model, p, ()) => progress model p),
      ("Finished", .ofFields [String, DownloadOutcome]
        (required "model" string, required "outcome" DownloadOutcome.read, ())
        fun (model, outcome, ()) => finished model outcome)]

end DownloadEvent

structure MemberOutcome where
  model : String
  outcome : DownloadOutcome
  deriving DecidableEq, Repr

namespace MemberOutcome

def toJson (m : MemberOutcome) : Json :=
  .object [("model", .string m.model), ("outcome", m.outcome.toJson)]

open Json Json.Reader Json.Field in
def read : Json.Reader MemberOutcome :=
  record [String, DownloadOutcome] "struct MemberOutcome"
    (required "model" string, required "outcome" DownloadOutcome.read, ())
    fun (model, outcome, ()) => { model, outcome }

end MemberOutcome

/-- The final word on a batch. -/
structure BatchReport where
  outcomes : List MemberOutcome
  deriving DecidableEq, Repr

namespace BatchReport

/-- The members whose outcome is of a kind, in order. -/
def namesWhere (r : BatchReport) (kind : DownloadOutcome → Bool) : List String :=
  (r.outcomes.filter fun m => kind m.outcome).map (·.model)

def succeeded (r : BatchReport) : List String := r.namesWhere DownloadOutcome.isSuccess
def failed (r : BatchReport) : List String := r.namesWhere DownloadOutcome.isFailure
def cancelled (r : BatchReport) : List String := r.namesWhere DownloadOutcome.isCancelled

/-- How the first member of that name ended. -/
def outcome? (r : BatchReport) (model : String) : Option DownloadOutcome :=
  (r.outcomes.find? fun m => m.model == model).map (·.outcome)

/-- There are members, and all completed. -/
def isSuccess (r : BatchReport) : Bool :=
  !r.outcomes.isEmpty && r.outcomes.all fun m => m.outcome.isSuccess

def toJson (r : BatchReport) : Json :=
  .object [("outcomes", .array (r.outcomes.map MemberOutcome.toJson))]

open Json Json.Reader Json.Field in
def read : Json.Reader BatchReport :=
  record [List MemberOutcome] "struct BatchReport"
    (required "outcomes" (list MemberOutcome.read), ())
    fun (outcomes, ()) => { outcomes }

end BatchReport

inductive BatchEvent where
  /-- A member's progress changed; `overall` is the mean of all members. -/
  | progress (model : String) (progress overall : Binary64)
  | memberFinished (model : String) (outcome : DownloadOutcome)
  /-- Every member has ended. -/
  | finished (report : BatchReport)
  deriving DecidableEq, Repr

namespace BatchEvent

def toJson : BatchEvent → Json
  | progress model p overall =>
    .object [("Progress", .object
      [("model", .string model), ("progress", .float p), ("overall", .float overall)])]
  | memberFinished model outcome =>
    .object [("MemberFinished",
      .object [("model", .string model), ("outcome", outcome.toJson)])]
  | finished report => .object [("Finished", report.toJson)]

open Json Json.Reader Json.Field in
def read : Json.Reader BatchEvent :=
  variants
    [("Progress", .ofFields [String, Binary64, Binary64]
        (required "model" string, required "progress" float, required "overall" float, ())
        fun (model, p, overall, ()) => progress model p overall),
      ("MemberFinished", .ofFields [String, DownloadOutcome]
        (required "model" string, required "outcome" DownloadOutcome.read, ())
        fun (model, outcome, ()) => memberFinished model outcome),
      ("Finished", .holding fun v => (BatchReport.read v).map finished)]

end BatchEvent

end ModelDepot
