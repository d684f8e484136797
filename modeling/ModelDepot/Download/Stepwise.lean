import ModelDepot.Download.Batch

/-!
# Batches one call at a time

A batch whose status calls wait to be let through, so that one member moves at a time. Naps of a
second or more are not slept out: a member in such a nap moves only when it is stopped.
-/

namespace ModelDepot.Batch

variable {τ : Type} [Transport τ]

/-- The nap lengths from which on a nap is not slept out. -/
def longNap : Nat := nanosPerSecond

/-- The poller naps for so long that it stays asleep. -/
def isAsleep (p : Poller) : Bool :=
  match p.stage with
  | .napping _ =>
    !p.gate.isStopped && longNap ≤ p.config.interval.nanos && longNap ≤ p.config.timeout.nanos
  | _ => false

/-- The poller moves no further by itself: its next status call waits, or it stays asleep. -/
def isHeld (p : Poller) : Bool :=
  p.isCalling || isAsleep p

/-- Starts a batch and lets every member come to its first status call. A timeout that is no long
nap runs out while they wait there. -/
def startStepwise (s : Scene τ) (members : List String) (config : PollerConfig) : Advance τ :=
  let (s, b) := start s members config
  let a := advanceAll isHeld s b
  if config.timeout.nanos < longNap then
    { a with scene := a.scene.wait config.timeout.nanos }
  else a

def release (a : Advance τ) (i : Nat) : Advance τ :=
  match a.batch.pollers[i]? with
  | none => a
  | some p =>
    if p.isCalling then
      match a.scene.advance p with
      | none => a
      | some moved =>
        advanceMember isHeld
          { a with
            scene := moved.scene
            batch := { a.batch with pollers := a.batch.pollers.set i moved.poller } } i
    else advanceMember isHeld a i

inductive Move where
  /-- A member's waiting call is let through. -/
  | letThrough (model : String)
  /-- A member is stopped, then its waiting call is let through. -/
  | stopMember (model : String)
  /-- The batch is stopped, then all waiting calls are let through in order. -/
  | stopAll
  deriving DecidableEq, Repr

def indexOf (b : Batch) (model : String) : Nat :=
  b.members.idxOf model

def move (s : Scene τ) (b : Batch) : Move → Option (Advance τ)
  | .letThrough model =>
    let i := b.indexOf model
    if (b.pollers[i]?).any Poller.isCalling then some (release ⟨s, b, []⟩ i) else none
  | .stopMember model =>
    let i := b.indexOf model
    let b := { b with pollers := b.pollers.modify i Poller.stop }
    some (release ⟨s, b, []⟩ i)
  | .stopAll =>
    some ((List.range b.pollers.length).foldl release ⟨s, b.stop, []⟩)

def isOver (b : Batch) : Bool :=
  b.tally.remaining == 0

end ModelDepot.Batch
