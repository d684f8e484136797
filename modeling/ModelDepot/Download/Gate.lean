import ModelDepot.Number.Binary64

/-!
# The poll gate

The gate admits one status call at a time and records a stop. A call begins only from idle; a stop
that comes while a call is under way makes the end of that call fail, so that its result is thrown
away.
-/

namespace ModelDepot

inductive PollGate where
  | idle
  | inFlight
  | stopped
  deriving DecidableEq, Repr

namespace PollGate

/-- Begins a call; refused while one is under way, and for good after a stop. -/
def begin : PollGate → Bool × PollGate
  | idle => (true, inFlight)
  | g => (false, g)

/-- Ends the call under way; refused when a stop has come in between. -/
def finish : PollGate → Bool × PollGate
  | inFlight => (true, idle)
  | g => (false, g)

/-- Closes the gate for good. Says whether a call was under way. -/
def stop (g : PollGate) : Bool × PollGate :=
  (g == inFlight, stopped)

def isStopped (g : PollGate) : Bool := g == stopped
def isInFlight (g : PollGate) : Bool := g == inFlight

@[simp] theorem isStopped_iff {g : PollGate} : g.isStopped = true ↔ g = stopped := by
  simp [isStopped]

@[simp] theorem isStopped_eq_false_iff {g : PollGate} : g.isStopped = false ↔ g ≠ stopped := by
  simp [isStopped]

@[simp] theorem isInFlight_iff {g : PollGate} : g.isInFlight = true ↔ g = inFlight := by
  simp [isInFlight]

theorem begin_eq_true_iff {g : PollGate} : g.begin.1 = true ↔ g = idle := by
  cases g <;> simp [begin]

theorem finish_eq_true_iff {g : PollGate} : g.finish.1 = true ↔ g = inFlight := by
  cases g <;> simp [finish]

theorem stop_eq_true_iff {g : PollGate} : g.stop.1 = true ↔ g = inFlight := by
  simp [stop]

theorem begin_of_ne_idle {g : PollGate} (h : g ≠ idle) : g.begin = (false, g) := by
  cases g with
  | idle => exact absurd rfl h
  | inFlight | stopped => rfl

theorem finish_of_ne_inFlight {g : PollGate} (h : g ≠ inFlight) : g.finish = (false, g) := by
  cases g with
  | inFlight => exact absurd rfl h
  | idle | stopped => rfl

end PollGate

/-- The latest progress of a download. Every bit of what is put in comes out again. -/
structure ProgressCell where
  bits : UInt64
  deriving DecidableEq, Repr

namespace ProgressCell

def start : ProgressCell := ⟨0⟩

def get (c : ProgressCell) : Binary64 := ⟨c.bits⟩

def set (_ : ProgressCell) (x : Binary64) : ProgressCell := ⟨x.bits⟩

@[simp] theorem get_set (c : ProgressCell) (x : Binary64) : (c.set x).get = x := rfl

end ProgressCell

end ModelDepot
