import ModelDepot.Keyed
import ModelDepot.Json.Writer
import ModelDepot.Transport.Basic

/-!
# The in-memory backend

A backend with scripted replies. A model's status replies are used up one a call, and the last one
repeats. A model that was started and has no script goes through a simulated download that moves
on by twenty points a status call.
-/

namespace ModelDepot

def statusPayload (model : String) (progress : Binary64) (completed : Bool) : String :=
  (Json.object
    [("completed", .bool completed), ("model_name", .string model),
      ("progress", .float progress),
      ("status", .string (if completed then "completed" else "downloading"))]).text

def errorPayload (message : String) : String :=
  (Json.object [("error", .string message)]).text

/-- The status replies of one model: those not used yet and the last one used. -/
structure StatusScript where
  pending : List Reply
  last : Option Reply

def StatusScript.next (s : StatusScript) : Option Reply × StatusScript :=
  match s.pending with
  | reply :: rest => (some reply, ⟨rest, some reply⟩)
  | [] => (s.last, s)

structure InMemory where
  models : Option String
  /-- Replies to starts, by model. -/
  starts : Keyed Reply
  scripts : Keyed StatusScript
  /-- The status calls that simulated downloads have answered. -/
  simulated : Keyed UInt32
  health : Option Reply
  updates : Option Reply
  apply : Option Reply
  /-- The nanoseconds every call takes. -/
  latency : Nat
  /-- Every call so far, in order. -/
  calls : List Call

namespace InMemory

def empty : InMemory :=
  { models := none, starts := [], scripts := [], simulated := [], health := none,
    updates := none, apply := none, latency := 0, calls := [] }

/-- The points by which a simulated download moves on. -/
def simulatedStep : UInt32 := 20

def simulatedProgress (step : UInt32) : UInt32 :=
  min (step * simulatedStep) 100

def simulate (b : InMemory) (model : String) : Reply × InMemory :=
  match b.simulated.get? model with
  | none => (.ok (errorPayload "Model not found or not being downloaded"), b)
  | some step =>
    let progress := simulatedProgress step
    (.ok (statusPayload model (.ofNat progress.toNat) (100 ≤ progress)),
      { b with simulated := b.simulated.set model (step + 1) })

/-- The next status reply of a model: scripted if there is a script with any reply. -/
def nextStatus (b : InMemory) (model : String) : Reply × InMemory :=
  match b.scripts.get? model with
  | none => b.simulate model
  | some script =>
    match script.next with
    | (some reply, script) => (reply, { b with scripts := b.scripts.set model script })
    | (none, _) => b.simulate model

/-- An object of texts as compact JSON. -/
def reply (members : List (String × Json)) : Reply :=
  .ok (Json.object members).text

/-- A start that is accepted begins a simulated download, unless there is one. -/
def start (b : InMemory) (model : String) : Reply × InMemory :=
  match (b.starts.get? model).getD
      (reply [("model", .string model), ("status", .string "downloading")]) with
  | .error e => (.error e, b)
  | .ok text =>
    (.ok text,
      if (b.simulated.get? model).isSome then b
      else { b with simulated := b.simulated.set model 0 })

def answer (b : InMemory) : Call → Reply × InMemory
  | .listModels => (.ok (b.models.getD "[]"), b)
  | .startDownload model => b.start model
  | .downloadStatus model => b.nextStatus model
  | .removeModel model =>
    (reply [("model", .string model), ("status", .string "removed")],
      { b with simulated := b.simulated.erase model })
  | .checkForUpdates =>
    (b.updates.getD (reply [("available", .bool false), ("current_version", .string "0.1.0")]), b)
  | .applyUpdate => (b.apply.getD (.ok (errorPayload "No update available")), b)
  | .healthCheck =>
    (b.health.getD (reply [("status", .string "healthy"), ("version", .string "0.1.0")]), b)

def call (b : InMemory) (c : Call) : Reply × InMemory :=
  { b with calls := b.calls ++ [c] }.answer c

def count (b : InMemory) (c : Capability) : Nat :=
  b.calls.countP fun call => call.capability == c

def statusCalls (b : InMemory) (model : String) : Nat :=
  b.calls.countP fun call => call == .downloadStatus model

def location : String := "memory://stub"

instance : Transport InMemory where
  kind _ := .inMemory
  location _ := location
  call b c :=
    let (reply, b) := b.call c
    (⟨reply, b.latency⟩, b)

end InMemory

end ModelDepot
