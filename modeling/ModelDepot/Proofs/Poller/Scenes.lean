import ModelDepot.Download.Run
import ModelDepot.Proofs.Poller.Course

/-! # Runs over a transport

A run over a transport that nobody stops is a course: each of its steps is one turn, which finds the
clock, the held names and the replies as the scene has them.
-/

namespace ModelDepot

namespace Course

def behind (first c : Course) : Course :=
  ⟨c.poller, first.calls ++ c.calls, first.sent ++ c.sent, first.received ++ c.received⟩

theorem turn_behind (first c : Course) (answers : Nat → Reply) (m : Moment) :
    (first.behind c).turn answers m =
      first.behind (c.turn (fun i => answers (first.calls.length + i)) m) := by
  simp only [turn, behind]
  split
  · split <;> simp
  · simp
  · rfl
  · rfl

theorem course_succ (p : Poller) (answers : Nat → Reply) (around : Nat → Moment) (n : Nat) :
    p.course answers around (n + 1) =
      (p.course answers around 1).behind
        ((p.course answers around 1).poller.course
          (fun i => answers ((p.course answers around 1).calls.length + i))
          (fun k => around (k + 1)) n) := by
  induction n with
  | zero => simp [behind, Poller.course]
  | succ n ih =>
      have next : p.course answers around (n + 1 + 1) =
          (p.course answers around (n + 1)).turn answers (around (n + 1)) := rfl
      rw [next, ih, turn_behind]
      rfl

theorem course_of_rest {p : Poller} {m : Moment} (hn : p.next m.now m.active = .rest)
    (answers : Nat → Reply) (n : Nat) : p.course answers (fun _ => m) n = ⟨p, [], [], []⟩ := by
  induction n with
  | zero => rfl
  | succ n ih => simp [Poller.course, ih, turn, hn]

end Course

def inFront {α : Type} (a : α) (rest : Nat → α) : Nat → α
  | 0 => a
  | n + 1 => rest n

theorem attended_inFront {m : Moment} {around : Nat → Moment} (hm : m.attended = true)
    (attended : ∀ k, (around k).attended = true) (k : Nat) :
    (inFront m around k).attended = true := by
  cases k with
  | zero => exact hm
  | succ k => exact attended k

namespace Scene

variable {τ : Type} [Transport τ]

def moment (s : Scene τ) : Moment :=
  ⟨s.now, s.client.active, true⟩

/-- A run that nobody stops is a course whose events are received. -/
theorem exists_course (s : Scene τ) (p : Poller) (n : Nat) :
    ∃ answers around, (∀ k, (around k).attended = true) ∧
      (s.runStopping .never n p).poller = (p.course answers around n).poller ∧
      (s.runStopping .never n p).told = (p.course answers around n).sent := by
  induction n generalizing s p with
  | zero => exact ⟨fun _ => .ok "", fun _ => s.moment, fun _ => rfl, rfl, rfl⟩
  | succ n ih =>
      cases hn : p.next s.now s.client.active with
      | step p' active told =>
          obtain ⟨answers, around, attended, hp, ht⟩ := ih (s.withActive active) p'
          refine ⟨answers, inFront s.moment around, attended_inFront rfl attended, ?_⟩
          rw [Course.course_succ]
          simp [runStopping, StopPoint.before, StopPoint.after, advance, hn, hp, ht, Poller.course,
            Course.turn, Course.behind, inFront, moment]
      | call c =>
          obtain ⟨answers, around, attended, hp, ht⟩ := ih (s.call c).2 (p.receive (s.call c).1)
          refine ⟨inFront (s.call c).1 answers, inFront s.moment around,
            attended_inFront rfl attended, ?_⟩
          rw [Course.course_succ]
          simp [runStopping, StopPoint.before, StopPoint.after, advance, hn, hp, ht, Poller.course,
            Course.turn, Course.behind, inFront, moment, Nat.add_comm 1]
      | sleep wake =>
          obtain ⟨answers, around, attended, hp, ht⟩ := ih { s with now := max s.now wake } p
          refine ⟨answers, inFront s.moment around, attended_inFront rfl attended, ?_⟩
          rw [Course.course_succ]
          simp [runStopping, StopPoint.before, StopPoint.after, advance, hn, hp, ht, Poller.course,
            Course.turn, Course.behind, inFront, moment]
      | rest =>
          refine ⟨fun _ => .ok "", fun _ => s.moment, fun _ => rfl, ?_⟩
          rw [Course.course_of_rest hn]
          simp [runStopping, StopPoint.before, advance, hn]

end Scene

end ModelDepot
