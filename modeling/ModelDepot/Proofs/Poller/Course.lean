import ModelDepot.Proofs.Poller.Standing

/-! # A poller that nobody stops

The course of a poller that is given its turns: at each turn it goes on, or the call that it makes
is answered, or it naps. What surrounds it at a turn is arbitrary: the instant, the names that are
held, and whether anyone still receives the events.
-/

namespace ModelDepot

structure Moment where
  now : Nat
  active : ActiveDownloads
  /-- The receiver of the events is still there. -/
  attended : Bool

structure Course where
  poller : Poller
  /-- The calls that were answered. -/
  calls : List Call
  /-- The events that were sent, whether or not anyone was there. -/
  sent : List DownloadEvent
  /-- The events that came to the receiver. -/
  received : List DownloadEvent

namespace Course

def turn (c : Course) (answers : Nat → Reply) (m : Moment) : Course :=
  match c.poller.next m.now m.active with
  | .step p _ told =>
    { c with
      poller := p
      sent := c.sent ++ told.toList
      received := if m.attended then c.received ++ told.toList else c.received }
  | .call call =>
    { c with poller := c.poller.receive (answers c.calls.length), calls := c.calls ++ [call] }
  | .sleep _ | .rest => c

end Course

namespace Poller

def course (p : Poller) (answers : Nat → Reply) (around : Nat → Moment) : Nat → Course
  | 0 => ⟨p, [], [], []⟩
  | n + 1 => (p.course answers around n).turn answers (around n)

end Poller

namespace Course

variable {c : Course} {answers : Nat → Reply} {m : Moment}

theorem turn_cases (c : Course) (answers : Nat → Reply) (m : Moment) :
    (∃ p active told, Poller.Moves m.now m.active c.poller p active told ∧
      (c.turn answers m).poller = p ∧ (c.turn answers m).calls = c.calls ∧
      (c.turn answers m).sent = c.sent ++ told.toList) ∨
    (∃ call, c.poller.call? = some call ∧
      (c.turn answers m).poller = c.poller.receive (answers c.calls.length) ∧
      (c.turn answers m).calls = c.calls ++ [call] ∧ (c.turn answers m).sent = c.sent) ∨
    (∃ instant, c.poller.stage = .napping instant ∧ c.poller.gate.isStopped = false ∧
      m.now < instant ∧ c.turn answers m = c) ∨
    (c.poller.IsResting ∧ c.turn answers m = c) := by
  rcases Poller.next_cases c.poller m.now m.active with ⟨p, active, told, hm⟩ | ⟨call, hc, hn⟩ |
    ⟨instant, hs, hg, hlt, hn⟩ | ⟨hr, hn⟩
  · refine .inl ⟨p, active, told, hm, ?_⟩
    simp [turn, Poller.next_of_moves hm]
  · refine .inr (.inl ⟨call, hc, ?_⟩)
    simp [turn, hn]
  · exact .inr (.inr (.inl ⟨instant, hs, hg, hlt, by simp [turn, hn]⟩))
  · exact .inr (.inr (.inr ⟨hr, by simp [turn, hn]⟩))

theorem changes_turn (c : Course) (answers : Nat → Reply) (m : Moment) :
    c.poller.Changes (c.turn answers m).poller := by
  rcases turn_cases c answers m with ⟨p, _, _, hm, hp, _⟩ | ⟨_, _, hp, _⟩ | ⟨_, _, _, _, ht⟩ |
    ⟨_, ht⟩
  · rw [hp]
    exact .move hm
  · rw [hp]
    exact Poller.changes_receive _ _
  · rw [ht]
    exact .none
  · rw [ht]
    exact .none

theorem config_course (p : Poller) (answers : Nat → Reply) (around : Nat → Moment) (n : Nat) :
    (p.course answers around n).poller.config = p.config := by
  induction n with
  | zero => rfl
  | succ n ih => exact (Poller.config_changes (changes_turn _ _ _)).trans ih

theorem exists_act (c : Course) (answers : Nat → Reply) (m : Moment) :
    ∃ a, ∀ stopping,
      (⟨c.poller, stopping⟩ : Life).after a = ⟨(c.turn answers m).poller, stopping⟩ ∧
      (c.turn answers m).sent = c.sent ++ ((⟨c.poller, stopping⟩ : Life).passage a).told := by
  rcases Poller.next_cases c.poller m.now m.active with ⟨_, _, _, hm⟩ | ⟨_, _, hn⟩ |
    ⟨_, _, _, _, hn⟩ | ⟨_, hn⟩
  · refine ⟨.go m.now m.active, fun _ => ?_⟩
    have hn := Poller.next_of_moves hm
    simp [Life.after, Life.passage, turn, Poller.go, Poller.tells, hn]
  · exact ⟨.answer (answers c.calls.length),
      fun _ => by simp [Life.after, Life.passage, turn, hn]⟩
  -- a poller that naps or rests goes on to where it is
  all_goals
    exact ⟨.go m.now m.active,
      fun _ => by simp [Life.after, Life.passage, turn, Poller.go, Poller.tells, hn]⟩

/-- A course is a life in which nobody stops the poller, and it sends what is told in that life. -/
theorem exists_acts (p : Poller) (answers : Nat → Reply) (around : Nat → Moment) (n : Nat) :
    ∃ acts, ∀ stopping,
      (⟨p, stopping⟩ : Life).afterAll acts = ⟨(p.course answers around n).poller, stopping⟩ ∧
      (⟨p, stopping⟩ : Life).told acts = (p.course answers around n).sent := by
  induction n with
  | zero => exact ⟨[], fun _ => ⟨rfl, rfl⟩⟩
  | succ n ih =>
      obtain ⟨acts, hacts⟩ := ih
      obtain ⟨a, ha⟩ := exists_act (p.course answers around n) answers (around n)
      refine ⟨acts ++ [a], fun stopping => ?_⟩
      obtain ⟨there, told⟩ := hacts stopping
      obtain ⟨next, sent⟩ := ha stopping
      refine ⟨?_, ?_⟩
      · rw [Life.afterAll_append, there]
        exact next
      · rw [Life.told_append, there, told, Life.told_cons]
        simpa [Poller.course, Life.told, Life.passages] using sent.symm

theorem received_turn (hm : m.attended = true) (h : c.received = c.sent) :
    (c.turn answers m).received = (c.turn answers m).sent := by
  unfold turn
  split
  · simp [hm, h]
  all_goals exact h

theorem received_course {p : Poller} {around : Nat → Moment}
    (attended : ∀ n, (around n).attended = true) (n : Nat) :
    (p.course answers around n).received = (p.course answers around n).sent := by
  induction n with
  | zero => rfl
  | succ n ih => exact received_turn (attended n) ih

theorem turn_of_ended (h : c.poller.stage = .ended) : c.turn answers m = c := by
  simp [turn, Poller.next, h]

theorem course_of_ended {p : Poller} {around : Nat → Moment} {n k : Nat} (hle : n ≤ k)
    (h : (p.course answers around n).poller.stage = .ended) :
    p.course answers around k = p.course answers around n := by
  induction hle with
  | refl => rfl
  | @step k _ ih =>
      have stays : (p.course answers around k).turn answers (around k) =
          p.course answers around k := turn_of_ended (by rw [ih, h])
      exact stays.trans ih

end Course

end ModelDepot
