import ModelDepot.Proofs.Poller.Settling
import ModelDepot.Proofs.Poller.Stopping

/-! # Status calls begun, answered and ended

The gate lets one status call in at a time. Behind a closed gate none begins, and none is answered
but one that was in flight.
-/

namespace ModelDepot

namespace Stage

def isBeginning : Stage → Bool
  | .beginning => true
  | _ => false

def isReceived : Stage → Bool
  | .received _ => true
  | _ => false

def isCalling : Stage → Bool
  | .calling => true
  | _ => false

end Stage

namespace Poller

def beginsCall (p p' : Poller) : Bool :=
  p.stage.isBeginning && p'.stage.isCalling

/-- The gate ends a status call, whether or not its reply counts. -/
def endsCall (p p' : Poller) : Bool :=
  p.stage.isReceived && !p'.stage.isReceived

def inFlight (p : Poller) : Nat :=
  p.stage.isInFlight.toNat

theorem balance_of_changes {p p' : Poller} (hc : p.Changes p') :
    p.inFlight + (p.beginsCall p').toNat = p'.inFlight + (p.endsCall p').toNat := by
  simp only [inFlight, beginsCall, endsCall]
  cases hc with
  | none | run | halt =>
      cases hs : p.stage <;>
        simp [halt, hs, Stage.isBeginning, Stage.isReceived, Stage.isCalling]
  | start hs | startRun hs | startAnswered _ hs | statusAnswered _ hs =>
      simp [hs, Stage.isInFlight, Stage.isBeginning, Stage.isReceived]
  | move hm =>
      cases hm <;>
        simp_all [Stage.isInFlight, Stage.isBeginning, Stage.isReceived, Stage.isCalling]

end Poller

def Passage.answersStatus (t : Passage) : Bool :=
  t.call matches some (.downloadStatus _)

namespace Life

/-- The status calls that begin in the course of some acts. A call begins when the gate lets it in:
from then on it is in flight. -/
def begun (l : Life) (acts : List Act) : Nat :=
  (l.passages acts).countP fun t => t.was.beginsCall t.now

def finished (l : Life) (acts : List Act) : Nat :=
  (l.passages acts).countP fun t => t.was.endsCall t.now

variable {l : Life} {acts : List Act} {t : Passage}

theorem begun_cons (l : Life) (a : Act) (acts : List Act) :
    l.begun (a :: acts) =
      (l.poller.beginsCall (l.after a).poller).toNat + (l.after a).begun acts := by
  simp only [begun, passages, List.countP_cons, passage]
  cases l.poller.beginsCall (l.after a).poller <;> simp [Nat.add_comm]

theorem begun_append (l : Life) (acts more : List Act) :
    l.begun (acts ++ more) = l.begun acts + (l.afterAll acts).begun more := by
  simp only [begun, passages_append, List.countP_append]

theorem balance (l : Life) (acts : List Act) :
    l.poller.inFlight + l.begun acts = (l.afterAll acts).poller.inFlight + l.finished acts := by
  induction acts generalizing l with
  | nil => rfl
  | cons a acts ih =>
      have first := Poller.balance_of_changes (changes_after l a)
      have later := ih (l.after a)
      simp only [begun, finished, passages, List.countP_cons, afterAll_cons, passage] at later ⊢
      cases hb : l.poller.beginsCall (l.after a).poller <;>
        cases he : l.poller.endsCall (l.after a).poller <;>
        simp [hb, he] at first ⊢ <;> omega

theorem begun_eq_zero (stopped : l.poller.gate = .stopped) : l.begun acts = 0 := by
  refine List.countP_eq_zero.2 fun t ht => ?_
  have closed : t.was.gate = .stopped := was_of_changes Poller.stopped_changes stopped ht
  have kept := (Poller.stage_changes_of_stopped closed (changes_of_mem ht)).2.1
  cases hn : t.now.stage with
  | calling => simp [Poller.beginsCall, kept hn, Stage.isBeginning]
  | _ => simp [Poller.beginsCall, hn, Stage.isCalling]

def answered (l : Life) (acts : List Act) : Nat :=
  (l.passages acts).countP (·.answersStatus)

theorem stage_of_answered {a : Act} (h : (l.passage a).answersStatus = true) :
    l.poller.stage.isCalling = true ∧ (l.after a).poller.stage.isCalling = false := by
  cases a with
  | answer reply =>
      cases hs : l.poller.stage <;>
        simp [passage, Passage.answersStatus, Poller.call?, hs] at h
      exact ⟨rfl, by simp [after, Poller.receive, hs, Stage.isCalling]⟩
  | _ => simp [passage, Passage.answersStatus] at h

theorem answered_le (stopped : l.poller.gate = .stopped) :
    l.answered acts ≤ l.poller.stage.isCalling.toNat := by
  induction acts generalizing l with
  | nil => exact Nat.zero_le _
  | cons a acts ih =>
      have later := ih (Poller.stopped_changes (changes_after l a) stopped)
      simp only [answered, passages, List.countP_cons] at later ⊢
      split
      · next isStatus =>
          obtain ⟨calling, notCalling⟩ := stage_of_answered isStatus
          -- the answered call is over, and behind a closed gate there is no other
          rw [notCalling] at later
          rw [calling]
          simpa using later
      · have kept := (Poller.stage_changes_of_stopped stopped (changes_after l a)).2.1
        have fewer : (l.after a).poller.stage.isCalling.toNat ≤ l.poller.stage.isCalling.toNat := by
          cases hs : (l.after a).poller.stage with
          | calling => exact Nat.le_of_eq (by rw [kept hs])
          | _ => exact Nat.zero_le _
        omega

theorem calls_eq_nil (silent : ∀ t ∈ l.passages acts, t.was.call? = none) : l.calls acts = [] := by
  refine List.filterMap_eq_nil_iff.2 fun t ht => ?_
  have unasked := silent t ht
  obtain ⟨first, a, rest, -, rfl⟩ := mem_passages_iff.1 ht
  cases a with
  | answer reply => exact unasked
  | _ => rfl

end Life

end ModelDepot
